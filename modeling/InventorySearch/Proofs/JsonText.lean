import InventorySearch.Json.Printer
import InventorySearch.Proofs.JsonLiteral

/-!
# JSON texts and their tokens

The text of a tree is a row of tokens, whatever the layout.  `Json.tokens` is that row,
and `tokens?_render` says that the tokeniser finds it, also with blanks behind the text.
`IsWritable` is what a tree needs for that, and for making sense at every place: its
numbers are literals within range, and its texts and keys stand for characters.

A number or a bare word ends only where another character follows, so there are two ways
to say that a piece of text reads as some tokens: `ReadsAs` lets the last token be open at
the end of the piece, and `ReadsFully` does not.  Pieces of the first kind can be put
together when a separator follows.
-/

namespace InventorySearch.Json

/-! ## The tokens of a tree -/

mutual

/-- The tokens of a tree. -/
def tokens : Json → List Token
  | null => [.null]
  | truth value => [.truth value]
  | number literal => [.number literal]
  | text content => [.text content]
  | array [] => [.arrayStart, .arrayEnd]
  | array (element :: elements) =>
    .arrayStart :: (tokens element ++ (elementTokens elements ++ [.arrayEnd]))
  | object [] => [.objectStart, .objectEnd]
  | object ((key, value) :: fields) =>
    .objectStart :: .text key :: .colon
      :: (tokens value ++ (fieldTokens fields ++ [.objectEnd]))

/-- The tokens of the elements that follow the first one of a list. -/
def elementTokens : List Json → List Token
  | [] => []
  | element :: elements => .comma :: (tokens element ++ elementTokens elements)

/-- The tokens of the fields that follow the first one of an object. -/
def fieldTokens : List (Option String × Json) → List Token
  | [] => []
  | (key, value) :: fields =>
    .comma :: .text key :: .colon :: (tokens value ++ fieldTokens fields)

end

mutual

/-- The text of a tree is a JSON text that stands for the tree, and the tree makes sense. -/
def IsWritable : Json → Prop
  | null | truth _ => True
  | number literal => literal.IsLiteral ∧ literal.toValue.isReadable = true
  | text content => ∃ s, content = some s
  | array elements => AreWritable elements
  | object fields => AreWritableFields fields

/-- This is so for some trees. -/
def AreWritable : List Json → Prop
  | [] => True
  | element :: elements => IsWritable element ∧ AreWritable elements

/-- This is so for the keys and the values of some fields. -/
def AreWritableFields : List (Option String × Json) → Prop
  | [] => True
  | (key, value) :: fields => (∃ s, key = some s) ∧ IsWritable value ∧ AreWritableFields fields

end

/-! ## Pieces of text -/

/-- Between tokens, a piece of text reads as some tokens, the last of which can still be open. -/
def ReadsAs (piece : List Char) (row : List Token) : Prop :=
  ∀ found, ∃ t, piece.foldlM Tokeniser.step ⟨.between, found⟩ = some t ∧
    t.settled? = some (row.reverse ++ found)

/-- Between tokens, a piece of text reads as some tokens and ends with the last one. -/
def ReadsFully (piece : List Char) (row : List Token) : Prop :=
  ∀ found, piece.foldlM Tokeniser.step ⟨.between, found⟩ = some ⟨.between, row.reverse ++ found⟩

/-- A character ends the number or the bare word before it. -/
def IsSeparator (c : Char) : Prop := c.isLower = false ∧ isNumberCharacter c = false

/-- A piece of text does not go on with a number or a bare word. -/
def StartsSeparated (piece : List Char) : Prop := ∀ c ∈ piece.head?, IsSeparator c

variable {a b : List Char} {s t : List Token}

theorem ReadsFully.readsAs (h : ReadsFully a s) : ReadsAs a s := by
  intro found
  exact ⟨_, h found, rfl⟩

theorem ReadsFully.append (ha : ReadsFully a s) (hb : ReadsFully b t) :
    ReadsFully (a ++ b) (s ++ t) := by
  intro found
  rw [List.foldlM_append, ha found, List.reverse_append, List.append_assoc]
  exact hb _

theorem ReadsFully.append_readsAs (ha : ReadsFully a s) (hb : ReadsAs b t) :
    ReadsAs (a ++ b) (s ++ t) := by
  intro found
  rw [List.foldlM_append, ha found, List.reverse_append, List.append_assoc]
  exact hb _

/-- A separator is read as if the token before it had been closed. -/
theorem Tokeniser.step_of_settled {tokeniser : Tokeniser} {found : List Token} {c : Char}
    (h : tokeniser.settled? = some found) (hc : IsSeparator c) :
    tokeniser.step c = step ⟨.between, found⟩ c := by
  obtain ⟨mode, before⟩ := tokeniser
  cases mode with
  | between =>
    obtain rfl : before = found := Option.some.inj h
    rfl
  | word letters => simp [step, hc.1, h]
  | number characters => simp [step, hc.2, h]
  | quoted | escaped | coded => exact absurd h (by simp [settled?])

theorem ReadsAs.append (ha : ReadsAs a s) (hb : ReadsAs b t)
    (hhead : StartsSeparated b) : ReadsAs (a ++ b) (s ++ t) := by
  intro found
  obtain ⟨middle, hmiddle, hsettled⟩ := ha found
  rw [List.foldlM_append, hmiddle, List.reverse_append, List.append_assoc]
  -- If nothing follows, the last token of the first piece may stay open.
  cases b with
  | nil =>
    obtain ⟨last, hlast, hfound⟩ := hb (s.reverse ++ found)
    obtain rfl : ⟨.between, s.reverse ++ found⟩ = last := Option.some.inj hlast
    exact ⟨middle, rfl, hsettled.trans hfound⟩
  | cons c b =>
    obtain ⟨last, hlast, hfound⟩ := hb (s.reverse ++ found)
    refine ⟨last, ?_, hfound⟩
    rw [← hlast]
    simp only [Option.bind_eq_bind, Option.bind_some, List.foldlM_cons,
      Tokeniser.step_of_settled hsettled (hhead c rfl)]

/-! ## Signs and blanks -/

theorem readsFully_nil : ReadsFully [] [] := by
  intro found
  rfl

theorem readsFully_of_blank (h : ∀ c ∈ a, isBlankCharacter c = true) : ReadsFully a [] := by
  intro found
  induction a with
  | nil => rfl
  | cons c a ih =>
    rw [List.foldlM_cons, Tokeniser.step, Tokeniser.enter, if_pos (h c List.mem_cons_self)]
    exact ih fun d hd => h d (List.mem_cons_of_mem c hd)

theorem isBlank_of_mem_lineBreak {layout : Layout} {depth : Nat} {c : Char}
    (h : c ∈ layout.lineBreak depth) : isBlankCharacter c = true := by
  cases layout with
  | compact => exact absurd h List.not_mem_nil
  | indented =>
    rcases List.mem_cons.1 h with rfl | hblank
    · rfl
    · rw [List.eq_of_mem_replicate hblank]
      rfl

theorem readsFully_lineBreak (layout : Layout) (depth : Nat) :
    ReadsFully (layout.lineBreak depth) [] :=
  readsFully_of_blank fun _ hc => isBlank_of_mem_lineBreak hc

theorem readsFully_arrayStart : ReadsFully ['['] [.arrayStart] := fun _ => rfl

theorem readsFully_arrayEnd : ReadsFully [']'] [.arrayEnd] := fun _ => rfl

theorem readsFully_objectStart : ReadsFully ['\x7b'] [.objectStart] := fun _ => rfl

theorem readsFully_objectEnd : ReadsFully ['\x7d'] [.objectEnd] := fun _ => rfl

theorem readsFully_comma : ReadsFully [','] [.comma] := fun _ => rfl

theorem readsFully_colon (layout : Layout) : ReadsFully layout.colon [.colon] := by
  cases layout <;> exact fun _ => rfl

/-! ## Bare words and numbers -/

theorem readsAs_null : ReadsAs ['n', 'u', 'l', 'l'] [.null] := fun _ => ⟨_, rfl, rfl⟩

theorem readsAs_true : ReadsAs ['t', 'r', 'u', 'e'] [.truth true] := fun _ => ⟨_, rfl, rfl⟩

theorem readsAs_false : ReadsAs ['f', 'a', 'l', 's', 'e'] [.truth false] := fun _ => ⟨_, rfl, rfl⟩

theorem foldlM_number (found : List Token) (before : List Char)
    (h : ∀ c ∈ a, isNumberCharacter c = true) :
    a.foldlM Tokeniser.step ⟨.number before, found⟩ =
      some ⟨.number (a.reverse ++ before), found⟩ := by
  induction a generalizing before with
  | nil => rfl
  | cons c a ih =>
    have hstep : Tokeniser.step ⟨.number before, found⟩ c = some ⟨.number (c :: before), found⟩ :=
      if_pos (h c List.mem_cons_self)
    rw [List.foldlM_cons, hstep, List.reverse_cons, List.append_assoc]
    exact ih (c :: before) fun d hd => h d (List.mem_cons_of_mem c hd)

theorem not_isBlankCharacter_of_begin {c : Char} (h : (c.isDigit || c = '-') = true) :
    isBlankCharacter c = false ∧ c ≠ '"' := by
  rw [Bool.or_eq_true, decide_eq_true_eq] at h
  rcases h with hdigit | rfl
  · have hcode := Char.isDigit_iff_toNat.1 hdigit
    refine ⟨?_, ?_⟩
    · rw [Bool.eq_false_iff]
      intro hblank
      simp only [isBlankCharacter, Bool.or_eq_true, decide_eq_true_eq] at hblank
      rcases hblank with ((rfl | rfl) | rfl) | rfl <;> exact absurd hcode (by decide)
    · rintro rfl
      exact absurd hcode (by decide)
  · exact ⟨rfl, by decide⟩

/-- A literal reads as its number. -/
theorem readsAs_number {n : Number} (h : n.IsLiteral) : ReadsAs n.text [.number n] := by
  intro found
  have hread := Number.read?_text h
  have hmem : ∀ c ∈ n.text, isNumberCharacter c = true :=
    fun c hc => Number.isNumberCharacter_of_mem_text h hc
  obtain ⟨c, rest, htext, hbegin⟩ := Number.exists_text_eq_cons h
  obtain ⟨hblank, hquote⟩ := not_isBlankCharacter_of_begin hbegin
  rw [htext] at hread hmem ⊢
  refine ⟨⟨.number (c :: rest).reverse, found⟩, ?_, ?_⟩
  · have hrest := foldlM_number found [c] fun d hd => hmem d (List.mem_cons_of_mem c hd)
    rw [List.foldlM_cons, Tokeniser.step, Tokeniser.enter, hblank, if_neg Bool.false_ne_true,
      if_neg hquote, if_pos hbegin, List.reverse_cons]
    exact hrest
  · simp [Tokeniser.settled?, hread]

/-! ## Quoted texts -/

/-- An escaped code unit below the surrogates stands for its character. -/
theorem assemble_unit {code : Nat} (h : code < 0xD800) (pieces : List Piece) :
    assemble (.unit code :: pieces) = (assemble pieces).map (Char.ofNat code :: ·) := by
  have hhigh : isHighSurrogate code = false := by
    simp [isHighSurrogate]
    omega
  have hlow : isLowSurrogate code = false := by
    simp [isLowSurrogate]
    omega
  cases pieces with
  | nil => simp [assemble, hhigh, hlow]
  | cons piece pieces => cases piece <;> simp [assemble, hhigh, hlow]

/-- The escape of a control character by its code. -/
theorem foldlM_codeEscape {c : Char} (h : c.toNat < 0x20) (pieces : List Piece)
    (found : List Token) :
    (codeEscape c).foldlM Tokeniser.step ⟨.quoted pieces, found⟩ =
      some ⟨.quoted (.unit c.toNat :: pieces), found⟩ := by
  have hdigits : ∀ n < 0x20, (Nat.toDigits 16 n).leftpad 4 '0' =
      ['0', '0', Nat.digitChar (n / 16), Nat.digitChar (n % 16)] := by decide
  have hvalue : ∀ d < 16, Text.hexDigit? (Nat.digitChar d) = some d := by decide
  have hzero : Text.hexDigit? '0' = some 0 := rfl
  have hcode : c.toNat / 16 * 16 + c.toNat % 16 = c.toNat := by omega
  have hhigh := hvalue (c.toNat / 16) (by omega)
  have hlow := hvalue (c.toNat % 16) (by omega)
  rw [codeEscape, hdigits _ h]
  simp [Tokeniser.step, Tokeniser.continueQuoted, Tokeniser.continueEscaped,
    Tokeniser.continueCoded, hzero, hhigh, hlow, hcode]

/-- A character that is written within quotes is read as a piece that stands for it. -/
theorem exists_piece_of_escape (c : Char) (pieces : List Piece) (found : List Token) :
    ∃ piece, (escape c).foldlM Tokeniser.step ⟨.quoted pieces, found⟩ =
        some ⟨.quoted (piece :: pieces), found⟩ ∧
      ∀ rest, assemble (piece :: rest) = (assemble rest).map (c :: ·) := by
  have hplain : ∀ rest, assemble (.character c :: rest) = (assemble rest).map (c :: ·) :=
    fun _ => rfl
  unfold escape
  split_ifs with hquote hslash hback hfeed hline hreturn htab hcontrol
  · exact ⟨.character c, by subst hquote; rfl, hplain⟩
  · exact ⟨.character c, by subst hslash; rfl, hplain⟩
  · exact ⟨.character c, by subst hback; rfl, hplain⟩
  · exact ⟨.character c, by subst hfeed; rfl, hplain⟩
  · exact ⟨.character c, by subst hline; rfl, hplain⟩
  · exact ⟨.character c, by subst hreturn; rfl, hplain⟩
  · exact ⟨.character c, by subst htab; rfl, hplain⟩
  · refine ⟨.unit c.toNat, foldlM_codeEscape hcontrol pieces found, ?_⟩
    intro rest
    rw [assemble_unit (by omega), Char.ofNat_toNat]
  · refine ⟨.character c, ?_, hplain⟩
    simp [Tokeniser.step, Tokeniser.continueQuoted, hquote, hslash, hcontrol]

/-- The inside of a quoted text is read as pieces that stand for its characters. -/
theorem exists_pieces_of_escapes (s : List Char) (pieces : List Piece) (found : List Token) :
    ∃ row, (s.flatMap escape).foldlM Tokeniser.step ⟨.quoted pieces, found⟩ =
        some ⟨.quoted (row.reverse ++ pieces), found⟩ ∧ assemble row = some s := by
  induction s generalizing pieces with
  | nil => exact ⟨[], rfl, rfl⟩
  | cons c s ih =>
    obtain ⟨piece, hpiece, hstands⟩ := exists_piece_of_escape c pieces found
    obtain ⟨row, hrow, hassemble⟩ := ih (piece :: pieces)
    refine ⟨piece :: row, ?_, ?_⟩
    · rw [List.flatMap_cons, List.foldlM_append, hpiece, List.reverse_cons, List.append_assoc]
      exact hrow
    · rw [hstands, hassemble, Option.map_some]

/-- A quoted text reads as the text. -/
theorem readsFully_quote (s : String) : ReadsFully (quoteContent (some s)) [.text (some s)] := by
  intro found
  obtain ⟨row, hrow, hassemble⟩ := exists_pieces_of_escapes s.toList [] found
  rw [List.append_nil] at hrow
  have hopen : Tokeniser.step ⟨.between, found⟩ '"' = some ⟨.quoted [], found⟩ := rfl
  have hclose : Tokeniser.step ⟨.quoted row.reverse, found⟩ '"' =
      some ⟨.between, .text (some s) :: found⟩ := by
    simp [Tokeniser.step, Tokeniser.continueQuoted, hassemble]
  rw [quoteContent, Option.getD_some, quote, List.cons_append, List.foldlM_cons, hopen]
  simp [hrow, hclose]

/-! ## Trees -/

theorem startsSeparated_nil : StartsSeparated [] := by
  intro c hc
  exact absurd hc (by simp)

theorem startsSeparated_of_blank (h : ∀ c ∈ a, isBlankCharacter c = true) :
    StartsSeparated a := by
  intro c hc
  have hblank := h c (List.mem_of_mem_head? hc)
  simp only [isBlankCharacter, Bool.or_eq_true, decide_eq_true_eq] at hblank
  rcases hblank with ((rfl | rfl) | rfl) | rfl <;> exact ⟨rfl, rfl⟩

theorem startsSeparated_lineBreak (layout : Layout) (depth : Nat) {c : Char} (hc : IsSeparator c) :
    StartsSeparated (layout.lineBreak depth ++ [c]) := by
  intro d hd
  cases layout with
  | compact =>
    obtain rfl : c = d := Option.some.inj hd
    exact hc
  | indented =>
    obtain rfl : '\n' = d := Option.some.inj hd
    exact ⟨rfl, rfl⟩

theorem startsSeparated_renderElements (layout : Layout) (depth : Nat) (elements : List Json)
    (ha : StartsSeparated a) : StartsSeparated (renderElements layout depth elements ++ a) := by
  cases elements with
  | nil => simpa [renderElements] using ha
  | cons element elements =>
    rw [renderElements]
    intro c hc
    obtain rfl : ',' = c := Option.some.inj hc
    exact ⟨rfl, rfl⟩

theorem startsSeparated_renderFields (layout : Layout) (depth : Nat)
    (fields : List (Option String × Json)) (ha : StartsSeparated a) :
    StartsSeparated (renderFields layout depth fields ++ a) := by
  cases fields with
  | nil => simpa [renderFields] using ha
  | cons field fields =>
    rw [renderFields]
    intro c hc
    obtain rfl : ',' = c := Option.some.inj hc
    exact ⟨rfl, rfl⟩

mutual

/-- The text of a tree reads as its tokens. -/
theorem readsAs_renderAt (layout : Layout) (depth : Nat) :
    ∀ tree : Json, tree.IsWritable → ReadsAs (renderAt layout depth tree) tree.tokens
  | null, _ => by simpa [renderAt, tokens] using readsAs_null
  | truth true, _ => by simpa [renderAt, tokens] using readsAs_true
  | truth false, _ => by simpa [renderAt, tokens] using readsAs_false
  | number literal, h => by
    rw [IsWritable] at h
    rw [renderAt, tokens]
    exact readsAs_number h.1
  | text content, h => by
    rw [IsWritable] at h
    obtain ⟨s, rfl⟩ := h
    rw [renderAt, tokens]
    exact (readsFully_quote s).readsAs
  | array [], _ => by
    rw [renderAt, tokens]
    exact (readsFully_arrayStart.append readsFully_arrayEnd).readsAs
  | array (element :: elements), h => by
    rw [IsWritable, AreWritable] at h
    have hopen := readsFully_arrayStart.append (readsFully_lineBreak layout (depth + 1))
    have hend := (readsFully_lineBreak layout depth).append readsFully_arrayEnd
    have hendHead := startsSeparated_lineBreak layout depth (c := ']') ⟨rfl, rfl⟩
    have helements := (readsAs_renderElements layout (depth + 1) elements h.2).append
      hend.readsAs hendHead
    have helement := (readsAs_renderAt layout (depth + 1) element h.1).append helements
      (startsSeparated_renderElements layout (depth + 1) elements hendHead)
    simpa [renderAt, tokens] using hopen.append_readsAs helement
  | object [], _ => by
    rw [renderAt, tokens]
    exact (readsFully_objectStart.append readsFully_objectEnd).readsAs
  | object ((key, value) :: fields), h => by
    rw [IsWritable, AreWritableFields] at h
    obtain ⟨⟨s, rfl⟩, hvalue, hfields⟩ := h
    have hopen := readsFully_objectStart.append (readsFully_lineBreak layout (depth + 1))
    have hkey := hopen.append ((readsFully_quote s).append (readsFully_colon layout))
    have hend := (readsFully_lineBreak layout depth).append readsFully_objectEnd
    have hendHead := startsSeparated_lineBreak layout depth (c := '\x7d') ⟨rfl, rfl⟩
    have hrest := (readsAs_renderFields layout (depth + 1) fields hfields).append
      hend.readsAs hendHead
    have hmember := (readsAs_renderAt layout (depth + 1) value hvalue).append hrest
      (startsSeparated_renderFields layout (depth + 1) fields hendHead)
    simpa [renderAt, tokens] using hkey.append_readsAs hmember

theorem readsAs_renderElements (layout : Layout) (depth : Nat) :
    ∀ elements : List Json, AreWritable elements →
      ReadsAs (renderElements layout depth elements) (elementTokens elements)
  | [], _ => by
    rw [renderElements, elementTokens]
    exact readsFully_nil.readsAs
  | element :: elements, h => by
    rw [AreWritable] at h
    have hcomma := readsFully_comma.append (readsFully_lineBreak layout depth)
    have hrest := readsAs_renderElements layout depth elements h.2
    have helement := (readsAs_renderAt layout depth element h.1).append hrest
      (by simpa using startsSeparated_renderElements layout depth elements startsSeparated_nil)
    simpa [renderElements, elementTokens] using hcomma.append_readsAs helement

theorem readsAs_renderFields (layout : Layout) (depth : Nat) :
    ∀ fields : List (Option String × Json), AreWritableFields fields →
      ReadsAs (renderFields layout depth fields) (fieldTokens fields)
  | [], _ => by
    rw [renderFields, fieldTokens]
    exact readsFully_nil.readsAs
  | (key, value) :: fields, h => by
    rw [AreWritableFields] at h
    obtain ⟨⟨s, rfl⟩, hvalue, hfields⟩ := h
    have hcomma := readsFully_comma.append (readsFully_lineBreak layout depth)
    have hkey := hcomma.append ((readsFully_quote s).append (readsFully_colon layout))
    have hrest := readsAs_renderFields layout depth fields hfields
    have hmember := (readsAs_renderAt layout depth value hvalue).append hrest
      (by simpa using startsSeparated_renderFields layout depth fields startsSeparated_nil)
    simpa [renderFields, fieldTokens] using hkey.append_readsAs hmember

end

/-- The tokeniser finds the tokens of a tree in its text, with blanks behind it or none. -/
theorem tokens?_render (layout : Layout) {tree : Json} (h : tree.IsWritable)
    (hb : ∀ c ∈ b, isBlankCharacter c = true) :
    tokens? (renderAt layout 0 tree ++ b) = some tree.tokens := by
  have hreads := (readsAs_renderAt layout 0 tree h).append (readsFully_of_blank hb).readsAs
    (startsSeparated_of_blank hb)
  obtain ⟨last, hlast, hfound⟩ := hreads []
  have hstart : (renderAt layout 0 tree ++ b).foldlM Tokeniser.step .start = some last := hlast
  simp [tokens?, hstart, hfound]

end InventorySearch.Json
