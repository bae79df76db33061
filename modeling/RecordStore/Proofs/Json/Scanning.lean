/-
# RecordStore.Proofs.Json.Scanning — what is written is scanned as it was meant.

The text of a document is the texts of its tokens one after another, and the scanner finds just these
tokens in it (`scan_chars`).  Every token but a number shows by itself where it ends.  A number ends
where it cannot go on; in a document only a comma, a closing bracket or the end of the text follows a
number, and with these no number goes on (`Delimited`).

Inside a string the scanner turns every character, escaped or not, into one piece, and the pieces of
a string make up its content (`content_pieces`).
-/
import RecordStore.Proofs.Json.Numerals

namespace RecordStore.Json

variable {rest : List (Option Char)}

/-! ## Numbers -/

/-- What may follow a number: nothing, or a symbol with which no number goes on. -/
def Delimited (rest : List (Option Char)) : Prop :=
  ∀ c ∈ rest.head?, c = some ',' ∨ c = some ']' ∨ c = some '\x7d'

theorem scanFrom_number {p q : NumberPhase} {text : List Char} (h : p.after? text = some q)
    (lexeme : List Char) (rest : List (Option Char)) :
    scanFrom (.number p lexeme) (text.map some ++ rest) =
      scanFrom (.number q (text.reverse ++ lexeme)) rest := by
  induction text generalizing p lexeme with
  | nil =>
    obtain rfl : p = q := Option.some.inj h
    rfl
  | cons c text ih =>
    rw [NumberPhase.after?_cons] at h
    obtain ⟨next, hnext, hafter⟩ := Option.bind_eq_some_iff.mp h
    have hstep : step (.number p lexeme) (some c) = ([], .number next (c :: lexeme)) := by
      simp [step, hnext]
    rw [List.map_cons, List.cons_append, scanFrom, hstep]
    show scanFrom (.number next (c :: lexeme)) (text.map some ++ rest) = _
    rw [ih hafter, List.reverse_cons, List.append_assoc]
    rfl

/-- A whole number ends before what delimits it. -/
theorem scanFrom_number_end {p : NumberPhase} (hp : p.mayEnd = true) (lexeme : List Char)
    (hrest : Delimited rest) :
    scanFrom (.number p lexeme) rest = .number lexeme.reverse :: scanFrom .between rest := by
  cases rest with
  | nil => simp [scanFrom, finish, hp]
  | cons c rest =>
    have hc := hrest c rfl
    have hstep : step (.number p lexeme) c =
        (.number lexeme.reverse :: (start c).1, (start c).2) := by
      rcases hc with rfl | rfl | rfl <;> cases p <;> first | rfl | cases hp
    rw [scanFrom, hstep]
    rfl

theorem exists_digitChar_eq {c : Char} (h : c.isDigit = true) :
    ∃ d ∈ List.range 10, d.digitChar = c := by
  simp only [Char.isDigit, Bool.and_eq_true, decide_eq_true_eq, UInt32.le_iff_toNat_le] at h
  have hlow : 48 ≤ c.toNat := h.1
  have hhigh : c.toNat ≤ 57 := h.2
  have hcode : ∀ d ∈ List.range 10, d.digitChar.toNat = 48 + d := by decide
  refine ⟨c.toNat - 48, List.mem_range.mpr (by omega), Char.toNat_inj.mp ?_⟩
  rw [hcode _ (List.mem_range.mpr (by omega))]
  omega

/-- A digit begins a number, like one after a minus sign. -/
theorem start_of_next? {c : Char} {p : NumberPhase} (h : NumberPhase.minus.next? c = some p) :
    start (some c) = ([], .number p [c]) := by
  have hdigit : c.isDigit = true := by
    rw [NumberPhase.next?] at h
    split at h
    · next hzero =>
      rw [hzero]
      decide
    · split at h
      · assumption
      · cases h
  have hdigits : ∀ d ∈ List.range 10, some (start (some d.digitChar)) =
      (NumberPhase.minus.next? d.digitChar).map fun p => ([], .number p [d.digitChar]) := by
    decide
  obtain ⟨d, hd, rfl⟩ := exists_digitChar_eq hdigit
  have hstart := hdigits d hd
  rw [h] at hstart
  exact Option.some.inj hstart

theorem scanFrom_numeral {lexeme : List Char} (h : IsNumeral lexeme) (hrest : Delimited rest) :
    scanFrom .between (lexeme.map some ++ rest) = .number lexeme :: scanFrom .between rest := by
  obtain ⟨unsigned, last, hlexeme, hafter, hend⟩ := h
  rcases hlexeme with rfl | rfl
  · cases lexeme with
    | nil =>
      obtain rfl := Option.some.inj hafter
      cases hend
    | cons c text =>
      -- without a sign the first digit begins the number
      rw [NumberPhase.after?_cons] at hafter
      obtain ⟨first, hfirst, hafter⟩ := Option.bind_eq_some_iff.mp hafter
      show (start (some c)).1 ++ scanFrom (start (some c)).2 (text.map some ++ rest) = _
      rw [start_of_next? hfirst]
      show scanFrom (.number first [c]) (text.map some ++ rest) = _
      rw [scanFrom_number hafter, scanFrom_number_end hend _ hrest]
      simp
  · show scanFrom (.number .minus ['-']) (unsigned.map some ++ rest) = _
    rw [scanFrom_number hafter, scanFrom_number_end hend _ hrest]
    simp

/-! ## Strings -/

/-- The piece that the written form of a character makes in a string. -/
def Piece.ofChar (c : Char) : Piece :=
  if c.toNat < 0x20 ∧ c ∉ ['\x08', '\x0c', '\n', '\r', '\t'] then .unit c.toNat else .char c

/-- A code unit below the surrogates stands for its character. -/
theorem joinOnto_unit {code : Nat} (h : code < 0xD800) (done : List Char) (pieces : List Piece) :
    joinOnto done (.unit code :: pieces) = joinOnto (Char.ofNat code :: done) pieces := by
  rw [joinOnto.eq_def done]
  dsimp only
  rw [if_neg (by omega), if_neg (by omega)]

theorem joinOnto_map_ofChar (done text : List Char) :
    joinOnto done (text.map Piece.ofChar) = some (done.reverse ++ text) := by
  induction text generalizing done with
  | nil => simp [joinOnto]
  | cons c text ih =>
    have hstep : joinOnto done ((c :: text).map Piece.ofChar) =
        joinOnto (c :: done) (text.map Piece.ofChar) := by
      rw [List.map_cons, Piece.ofChar]
      split
      · next hcontrol =>
        rw [joinOnto_unit (by omega), Char.ofNat_toNat]
      · rw [joinOnto]
    rw [hstep, ih, List.reverse_cons, List.append_assoc]
    rfl

/-- The pieces of a string that was written make up this string. -/
theorem content_pieces (s : String) : content (s.toList.map Piece.ofChar) = some s := by
  rw [content, joinOnto_map_ofChar, List.reverse_nil, List.nil_append, Option.map_some,
    String.ofList_toList]

theorem hexValue?_hexDigit {n : Nat} (h : n < 16) : hexValue? (hexDigit n) = some n :=
  (by decide : ∀ m ∈ List.range 16, hexValue? (hexDigit m) = some m) n (List.mem_range.mpr h)

theorem step_hex {n : Nat} (h : n < 16) (left code : Nat) (pieces : List Piece) :
    step (.hex left code pieces) (some (hexDigit n)) =
      if left ≤ 1 then ([], .string (.unit (16 * code + n) :: pieces))
      else ([], .hex (left - 1) (16 * code + n) pieces) := by
  simp [step, hexValue?_hexDigit h]

/-- A code unit below 0x20 in four hexadecimal digits. -/
theorem scanFrom_unit {code : Nat} (h : code < 0x20) (pieces : List Piece)
    (rest : List (Option Char)) :
    scanFrom (.hex 4 0 pieces) (some '0' :: some '0' :: some (hexDigit (code / 16)) ::
      some (hexDigit (code % 16)) :: rest) = scanFrom (.string (.unit code :: pieces)) rest := by
  show scanFrom (.hex 2 0 pieces) (some (hexDigit (code / 16)) :: some (hexDigit (code % 16)) ::
    rest) = _
  rw [scanFrom, step_hex (by omega)]
  show scanFrom (.hex 1 (16 * 0 + code / 16) pieces) (some (hexDigit (code % 16)) :: rest) = _
  rw [scanFrom, step_hex (by omega), if_pos (Nat.le_refl 1),
    show 16 * (16 * 0 + code / 16) + code % 16 = code by omega]
  rfl

/-- One written character makes one piece. -/
theorem scanFrom_escaped (pieces : List Piece) (c : Char) (rest : List (Option Char)) :
    scanFrom (.string pieces) ((escaped c).map some ++ rest) =
      scanFrom (.string (.ofChar c :: pieces)) rest := by
  unfold escaped
  -- seven characters have a short form of their own
  iterate 7
    split
    · next h => subst h; rfl
  split
  · next hcontrol =>
    have hpiece : Piece.ofChar c = .unit c.toNat := by
      rw [Piece.ofChar, if_pos ⟨hcontrol, by simp [*]⟩]
    rw [hpiece]
    exact scanFrom_unit hcontrol pieces rest
  · next hplain =>
    have hpiece : Piece.ofChar c = .char c := if_neg fun h => hplain h.1
    have hstep : step (.string pieces) (some c) = ([], .string (.char c :: pieces)) := by
      simp [step, *]
    rw [hpiece, List.map_singleton, List.singleton_append, scanFrom, hstep]
    rfl

theorem scanFrom_flatMap_escaped (pieces : List Piece) (text : List Char)
    (rest : List (Option Char)) :
    scanFrom (.string pieces) ((text.flatMap escaped).map some ++ rest) =
      scanFrom (.string ((text.map Piece.ofChar).reverse ++ pieces)) rest := by
  induction text generalizing pieces with
  | nil => rfl
  | cons c text ih =>
    rw [List.flatMap_cons, List.map_append, List.append_assoc, scanFrom_escaped, ih,
      List.map_cons, List.reverse_cons, List.append_assoc]
    rfl

theorem scanFrom_quoted (s : String) (rest : List (Option Char)) :
    scanFrom .between ((quoted s).map some ++ rest) =
      .text (some s) :: scanFrom .between rest := by
  have hopen : scanFrom .between ((quoted s).map some ++ rest) =
      scanFrom (.string []) ((s.toList.flatMap escaped).map some ++ some '"' :: rest) := by
    rw [quoted, List.map_append, List.append_assoc]
    rfl
  have hclose : step (.string ((s.toList.map Piece.ofChar).reverse ++ [])) (some '"') =
      ([.text (some s)], .between) := by
    rw [step, if_pos rfl, List.append_nil, List.reverse_reverse, content_pieces]
  rw [hopen, scanFrom_flatMap_escaped, scanFrom, hclose]
  rfl

/-! ## Tokens -/

/-- The text of tokens one after another. -/
def written (tokens : List Token) : List (Option Char) := (tokens.flatMap Token.chars).map some

theorem written_cons (t : Token) (tokens : List Token) :
    written (t :: tokens) = t.chars.map some ++ written tokens := by
  rw [written, List.flatMap_cons, List.map_append, written]

theorem written_append (tokens more : List Token) :
    written (tokens ++ more) = written tokens ++ written more := by
  rw [written, List.flatMap_append, List.map_append, written, written]

/-- Whether a token shows by itself where it ends. -/
def Token.endsItself : Token → Bool
  | .number _ | .junk => false
  | .text content => content.isSome
  | _ => true

theorem scanFrom_token {t : Token} (ht : t.endsItself = true) (rest : List (Option Char)) :
    scanFrom .between (t.chars.map some ++ rest) = t :: scanFrom .between rest := by
  cases t with
  | bool b => cases b <;> rfl
  | text content =>
    obtain ⟨s, rfl⟩ := Option.isSome_iff_exists.mp ht
    exact scanFrom_quoted s rest
  | number => cases ht
  | junk => cases ht
  | _ => rfl

theorem scanFrom_written_cons {t : Token} (ht : t.endsItself = true) (tokens : List Token)
    (rest : List (Option Char)) :
    scanFrom .between (written (t :: tokens) ++ rest) =
      t :: scanFrom .between (written tokens ++ rest) := by
  rw [written_cons, List.append_assoc, scanFrom_token ht]

/-- The name of a member and the colon after it. -/
theorem scanFrom_member (name : String) (tokens : List Token) (rest : List (Option Char)) :
    scanFrom .between (written (.text (some name) :: .colon :: tokens) ++ rest) =
      .text (some name) :: .colon :: scanFrom .between (written tokens ++ rest) := by
  rw [scanFrom_written_cons (t := .text (some name)) rfl, scanFrom_written_cons (t := .colon) rfl]

/-! ## Documents -/

theorem delimited_furtherItems (items : List Json) (rest : List (Option Char)) :
    Delimited (written (furtherItems items) ++ rest) := by
  intro c hc
  cases items <;> simp_all [furtherItems, written, Token.chars]

theorem delimited_furtherMembers (members : List (String × Json)) (rest : List (Option Char)) :
    Delimited (written (furtherMembers members) ++ rest) := by
  intro c hc
  cases members <;> simp_all [furtherMembers, written, Token.chars]

mutual

/-- The tokens of a document are found in its text, before anything that ends a number. -/
theorem scanFrom_tokens : ∀ (v : Json) {rest : List (Option Char)}, Delimited rest →
    scanFrom .between (written v.tokens ++ rest) = v.tokens ++ scanFrom .between rest
  | .null, rest, _ => scanFrom_written_cons (t := .null) rfl [] rest
  | .bool b, rest, _ => scanFrom_written_cons (t := .bool b) rfl [] rest
  | .number n, rest, hrest => by
    rw [tokens, written_cons, List.append_assoc]
    exact scanFrom_numeral (isNumeral_chars n) hrest
  | .text s, rest, _ => scanFrom_written_cons (t := .text (some s)) rfl [] rest
  | .array [], rest, _ => by
    rw [tokens, scanFrom_written_cons (t := .openArray) rfl,
      scanFrom_written_cons (t := .closeArray) rfl]
    rfl
  | .array (item :: items), rest, _ => by
    rw [tokens, List.cons_append, scanFrom_written_cons (t := .openArray) rfl, written_append,
      List.append_assoc, scanFrom_tokens item (delimited_furtherItems items rest),
      scanFrom_furtherItems items rest, List.cons_append, List.append_assoc]
  | .object [], rest, _ => by
    rw [tokens, scanFrom_written_cons (t := .openObject) rfl,
      scanFrom_written_cons (t := .closeObject) rfl]
    rfl
  | .object ((name, value) :: members), rest, _ => by
    rw [tokens, List.cons_append, List.cons_append, List.cons_append,
      scanFrom_written_cons (t := .openObject) rfl, scanFrom_member, written_append,
      List.append_assoc, scanFrom_tokens value (delimited_furtherMembers members rest),
      scanFrom_furtherMembers members rest]
    simp

theorem scanFrom_furtherItems : ∀ (items : List Json) (rest : List (Option Char)),
    scanFrom .between (written (furtherItems items) ++ rest) =
      furtherItems items ++ scanFrom .between rest
  | [], rest => scanFrom_written_cons (t := .closeArray) rfl [] rest
  | item :: items, rest => by
    rw [furtherItems, List.cons_append, scanFrom_written_cons (t := .comma) rfl, written_append,
      List.append_assoc, scanFrom_tokens item (delimited_furtherItems items rest),
      scanFrom_furtherItems items rest, List.cons_append, List.append_assoc]

theorem scanFrom_furtherMembers : ∀ (members : List (String × Json)) (rest : List (Option Char)),
    scanFrom .between (written (furtherMembers members) ++ rest) =
      furtherMembers members ++ scanFrom .between rest
  | [], rest => scanFrom_written_cons (t := .closeObject) rfl [] rest
  | (name, value) :: members, rest => by
    rw [furtherMembers, List.cons_append, List.cons_append, List.cons_append,
      scanFrom_written_cons (t := .comma) rfl, scanFrom_member, written_append,
      List.append_assoc, scanFrom_tokens value (delimited_furtherMembers members rest),
      scanFrom_furtherMembers members rest]
    simp

end

/-- The scanner finds in the text of a document the tokens that it was written with. -/
theorem scan_chars (v : Json) : scan (v.chars.map some) = v.tokens := by
  have h := scanFrom_tokens v (show Delimited [] from fun _ hc => nomatch hc)
  rw [List.append_nil] at h
  rw [scan_eq_scanFrom]
  exact h.trans (List.append_nil _)

end RecordStore.Json
