import InventorySearch.Proofs.JsonLiteral
import InventorySearch.Settings.Basic

/-!
# The text of settings, written and read

Settings are written as one header and two assignments.  The readers of TOML are followed
along such lines: a numeral before a line end is read as its number and never taken for a
date or a time (`Toml.readValue?_numeral`), and a key without quotes is read up to the
sign behind it (`Toml.readKey?_bare`).  Hence a whole line is read back, whatever its key
and number are (`Toml.readLine?_settingLine`).

`Settings.readText?_of_text?` puts the lines together: whatever tolerance can be written,
its text describes that tolerance.  `Settings.text?_eq_none_iff` says which cannot.
-/

namespace InventorySearch

namespace Toml

/-! ## Numerals before a line end -/

theorem ne_of_isDigit {c mark : Char} (hc : c.isDigit = true) (hmark : mark.isDigit = false) :
    c ≠ mark := by
  rintro rfl
  exact Bool.false_ne_true (hmark.symm.trans hc)

section Numerals

variable {digits : List Char} (hdigits : ∀ c ∈ digits, c.isDigit = true) (rest : List Char)

include hdigits in
theorem readMoreDigits?_line :
    readMoreDigits? Char.isDigit (digits ++ '\n' :: rest) = some (digits, '\n' :: rest) := by
  induction digits with
  | nil => rfl
  | cons c digits ih =>
    have hc : c.isDigit = true := hdigits c List.mem_cons_self
    -- A digit is no underscore, so the general equation of the reader applies.
    have hne : c ≠ '_' := ne_of_isDigit hc rfl
    rw [List.cons_append, readMoreDigits?.eq_3 _ _ _ (fun _ _ heq _ => hne heq), if_pos hc,
      ih fun d hd => hdigits d (List.mem_cons_of_mem c hd)]
    rfl

include hdigits in
theorem readDigits?_line (hne : digits ≠ []) :
    readDigits? Char.isDigit (digits ++ '\n' :: rest) = some (digits, '\n' :: rest) := by
  obtain ⟨c, digits, rfl⟩ := List.exists_cons_of_ne_nil hne
  have hmore := readMoreDigits?_line (fun d hd => hdigits d (List.mem_cons_of_mem c hd)) rest
  rw [List.cons_append, readDigits?, if_pos (hdigits c List.mem_cons_self), hmore]
  rfl

include hdigits in
/-- Behind a fixed number of digits is another digit or the line end. -/
theorem head?_of_readFixed? {width n : Nat} {behind : List Char}
    (h : readFixed? width (digits ++ '\n' :: rest) = some (n, behind)) :
    ∃ c, behind.head? = some c ∧ (c.isDigit = true ∨ c = '\n') := by
  simp only [readFixed?, Option.ite_none_right_eq_some, Bool.and_eq_true, decide_eq_true_eq,
    Option.some.injEq, Prod.mk.injEq, List.all_eq_true] at h
  obtain ⟨⟨-, hall⟩, -, rfl⟩ := h
  have hwidth : width ≤ digits.length := by
    by_contra hlt
    have hmem : '\n' ∈ (digits ++ '\n' :: rest).take width := by
      rw [List.mem_take_iff_getElem]
      exact ⟨digits.length, by simp; omega, by simp⟩
    exact absurd (hall _ hmem) (by decide)
  rw [List.drop_append_of_le_length hwidth]
  cases hbehind : digits.drop width with
  | nil => exact ⟨'\n', rfl, .inr rfl⟩
  | cons c later =>
    have hmem : c ∈ digits := List.mem_of_mem_drop (hbehind ▸ List.mem_cons_self)
    exact ⟨c, rfl, .inl (hdigits c hmem)⟩

include hdigits in
/-- Digits up to a line end are not the beginning of anything that has a mark behind a fixed number
of digits, as dates and times have. -/
theorem readFixed?_any_head?_line (width : Nat) {mark : Char} (hdigit : mark.isDigit = false)
    (hend : mark ≠ '\n') :
    ((readFixed? width (digits ++ '\n' :: rest)).any fun (_, behind) =>
      behind.head? = some mark) = false := by
  cases hread : readFixed? width (digits ++ '\n' :: rest) with
  | none => rfl
  | some result =>
    obtain ⟨n, behind⟩ := result
    obtain ⟨c, hhead, hc⟩ := head?_of_readFixed? hdigits rest hread
    have hne : c ≠ mark := by
      rcases hc with hc | rfl
      · exact ne_of_isDigit hc hdigit
      · exact hend.symm
    simp [hhead, hne]

include hdigits in
/-- Digits up to a line end begin with no other mark, which the readers look for first. -/
theorem line_ne_cons (mark : Char) (hdigit : mark.isDigit = false) (hend : mark ≠ '\n')
    (behind : List Char) : digits ++ '\n' :: rest ≠ mark :: behind := by
  cases digits with
  | nil => exact fun heq => hend (List.cons.inj heq).1.symm
  | cons c later =>
    exact fun heq => ne_of_isDigit (hdigits c List.mem_cons_self) hdigit (List.cons.inj heq).1

end Numerals

theorem readWhole?_numeral (n : Nat) (rest : List Char) :
    readWhole? (Text.numeral n ++ '\n' :: rest) = some (Text.numeral n, '\n' :: rest) := by
  rcases Nat.eq_zero_or_pos n with rfl | hpos
  · rfl
  · obtain ⟨c, digits, hnumeral⟩ := List.exists_cons_of_ne_nil (Text.numeral_ne_nil n)
    have hc : c ≠ '0' := Text.head?_numeral_ne hpos c (by simp [hnumeral])
    have hread := readDigits?_line (fun d hd => Text.isDigit_of_mem_numeral hd) rest
      (Text.numeral_ne_nil n)
    rw [hnumeral, List.cons_append] at hread ⊢
    rw [readWhole?.eq_2 _ (fun _ heq => hc (List.cons.inj heq).1), hread]

theorem integer?_natCast {n : Nat} (h : n < power 2 63) : integer? n = some (.integer n) := by
  have hleast : -(power 2 63 : Int) ≤ n :=
    Int.le_trans (Int.neg_nonpos_of_nonneg (Int.natCast_nonneg _)) (Int.natCast_nonneg n)
  rw [integer?]
  exact if_pos ⟨hleast, Int.ofNat_lt.2 h⟩

theorem readDecimal?_numeral {n : Nat} (h : n < power 2 63) (rest : List Char) :
    readDecimal? false (Text.numeral n ++ '\n' :: rest) = some (.integer n, '\n' :: rest) := by
  rw [readDecimal?, readWhole?_numeral, Option.bind_eq_bind, Option.bind_some]
  simp only [Text.numeralValue_numeral, Bool.false_eq_true, if_false, integer?_natCast h]
  rfl

theorem readNumber?_numeral {n : Nat} (h : n < power 2 63) (rest : List Char) :
    readNumber? (Text.numeral n ++ '\n' :: rest) = some (.integer n, '\n' :: rest) := by
  have hnumeral : ∀ c ∈ Text.numeral n, c.isDigit = true := fun _ => Text.isDigit_of_mem_numeral
  have hfirst := line_ne_cons hnumeral rest
  -- The mark of another base is the second character, behind a zero.
  have hsecond : ∀ mark behind, mark.isDigit = false → mark ≠ '\n' →
      Text.numeral n ++ '\n' :: rest ≠ '0' :: mark :: behind := by
    intro mark behind hdigit hend heq
    obtain ⟨c, digits, hcons⟩ := List.exists_cons_of_ne_nil (Text.numeral_ne_nil n)
    have htail : ∀ d ∈ digits, d.isDigit = true := fun d hd =>
      hnumeral d (hcons ▸ List.mem_cons_of_mem c hd)
    rw [hcons] at heq
    exact line_ne_cons htail rest mark hdigit hend behind (List.cons.inj heq).2
  rw [readNumber?.eq_6 _ (fun _ => hsecond 'x' _ rfl (by decide))
      (fun _ => hsecond 'o' _ rfl (by decide)) (fun _ => hsecond 'b' _ rfl (by decide))
      (hfirst '-' rfl (by decide)) (hfirst '+' rfl (by decide)),
    readUnsigned?.eq_3 _ _ (fun _ => hfirst 'i' rfl (by decide) _)
      (fun _ => hfirst 'n' rfl (by decide) _)]
  exact readDecimal?_numeral h rest

/-- A numeral before a line end is read as the value of its number, if TOML has that number. -/
theorem readValue?_numeral {n : Nat} (h : n < power 2 63) (limit : Nat) (rest : List Char) :
    readValue? limit (Text.numeral n ++ '\n' :: rest) = some (.integer n, '\n' :: rest) := by
  have hnumeral : ∀ c ∈ Text.numeral n, c.isDigit = true := fun _ => Text.isDigit_of_mem_numeral
  have hdate : beginsDate (Text.numeral n ++ '\n' :: rest) = false :=
    readFixed?_any_head?_line hnumeral rest 4 rfl (by decide)
  have htime : beginsTime (Text.numeral n ++ '\n' :: rest) = false :=
    readFixed?_any_head?_line hnumeral rest 2 rfl (by decide)
  have hfirst := line_ne_cons hnumeral rest
  rw [readValue?, nestingLimit,
    readValueWithin?.eq_4 _ _ _ (hfirst '[' rfl (by decide)) (hfirst '\x7b' rfl (by decide)),
    readScalar?.eq_5 _ (hfirst '"' rfl (by decide)) (hfirst '\'' rfl (by decide))
      (fun _ => hfirst 't' rfl (by decide) _) (fun _ => hfirst 'f' rfl (by decide) _),
    readDateOrNumber?, hdate, htime]
  exact readNumber?_numeral h rest

theorem skipBlanks_of_ne_cons {s : List Char} (hspace : ∀ behind, s ≠ ' ' :: behind)
    (htab : ∀ behind, s ≠ '\t' :: behind) : skipBlanks s = s := by
  cases s with
  | nil => rfl
  | cons c later =>
    have hc : isBlankCharacter c = false := by
      rw [isBlankCharacter, Bool.or_eq_false_iff, decide_eq_false_iff_not, decide_eq_false_iff_not]
      exact ⟨fun heq => hspace later (by rw [heq]), fun heq => htab later (by rw [heq])⟩
    rw [skipBlanks, List.dropWhile_cons_of_neg (by rw [hc]; decide)]

/-! ## Keys without quotes -/

/-- Whether a text can stand as a key without quotes. -/
def IsBareKey (key : List Char) : Prop := key ≠ [] ∧ ∀ c ∈ key, isKeyCharacter c = true

instance (key : List Char) : Decidable (IsBareKey key) :=
  decidable_of_iff (key ≠ [] ∧ key.all isKeyCharacter = true) (by rw [List.all_eq_true, IsBareKey])

section Keys

variable {key : List Char} (hkey : IsBareKey key)

include hkey in
/-- A key begins with none of the marks that stand in no key. -/
theorem IsBareKey.append_ne_cons {mark : Char} (hmark : isKeyCharacter mark = false)
    (rest behind : List Char) : key ++ rest ≠ mark :: behind := by
  obtain ⟨c, later, rfl⟩ := List.exists_cons_of_ne_nil hkey.1
  intro heq
  have hc := hkey.2 c List.mem_cons_self
  rw [(List.cons.inj heq).1, hmark] at hc
  exact Bool.false_ne_true hc

include hkey in
theorem IsBareKey.skipBlanks_append (rest : List Char) :
    skipBlanks (key ++ rest) = key ++ rest :=
  skipBlanks_of_ne_cons (hkey.append_ne_cons rfl rest) (hkey.append_ne_cons rfl rest)

include hkey in
/-- A line that begins with a key is neither empty nor a comment. -/
theorem IsBareKey.holds_something (rest : List Char) :
    ((key ++ rest).isEmpty ||
      [some '#', some '\n', some '\r'].contains (key ++ rest).head?) = false := by
  cases hcons : key ++ rest with
  | nil => exact absurd (List.append_eq_nil_iff.1 hcons).1 hkey.1
  | cons c later =>
    have hne : ∀ mark, isKeyCharacter mark = false → c ≠ mark := by
      rintro mark hmark rfl
      exact hkey.append_ne_cons hmark rest later hcons
    simp [hne '#' rfl, hne '\n' rfl, hne '\r' rfl]

variable {rest : List Char} (hrest : ∀ c ∈ rest.head?, isKeyCharacter c = false)

include hkey hrest in
theorem readSimpleKey?_bare : readSimpleKey? (key ++ rest) = some (String.ofList key, rest) := by
  have hspan : (key ++ rest).span isKeyCharacter = (key, rest) := Text.span_append hkey.2 hrest
  have hempty : key.isEmpty = false := List.isEmpty_eq_false_iff.2 hkey.1
  rw [readSimpleKey?.eq_3 _ (hkey.append_ne_cons rfl rest) (hkey.append_ne_cons rfl rest), hspan]
  simp [hempty]

include hkey hrest in
/-- A key without quotes is read up to what stands behind it, and so are blanks there. -/
theorem readKey?_bare (hdot : (skipBlanks rest).head? ≠ some '.') :
    readKey? (key ++ rest) = some (([], String.ofList key), skipBlanks rest) := by
  have hparts : readKeyParts? nestingLimit (key ++ rest) =
      some ([String.ofList key], skipBlanks rest) := by
    rw [nestingLimit, readKeyParts?, hkey.skipBlanks_append, readSimpleKey?_bare hkey hrest]
    simp only [Option.bind_eq_bind, Option.bind_some]
    split
    · rename_i behind heq
      exact absurd (by rw [heq]; rfl) hdot
    · rfl
  rw [readKey?, hparts]
  rfl

end Keys

/-! ## Lines -/

/-- A line with a header of one bare key is read as that header. -/
theorem readLine?_header {key : String} (hkey : IsBareKey key.toList) (limit : Nat)
    (rest : List Char) :
    readLine? limit ('[' :: (key.toList ++ ']' :: '\n' :: rest)) =
      some (some (.header ⟨.single, [], key⟩), '\n' :: rest) := by
  have hread : readKey? (key.toList ++ ']' :: '\n' :: rest) =
      some (([], key), ']' :: '\n' :: rest) := by
    rw [readKey?_bare hkey (by simp [isKeyCharacter]) (by simp [skipBlanks, isBlankCharacter]),
      String.ofList_toList]
    rfl
  rw [readLine?.eq_2 _ _ (hkey.append_ne_cons rfl _), readHeader?, hread]
  rfl

theorem toList_settingLine_append (key : String) (n : Nat) (rest : List Char) :
    (settingLine key n).toList ++ rest =
      key.toList ++ (' ' :: '=' :: ' ' :: (Text.numeral n ++ '\n' :: rest)) := by
  simp [settingLine]

theorem readAssignment?_settingLine {key : String} (hkey : IsBareKey key.toList) {n : Nat}
    (h : n < power 2 63) (limit : Nat) (rest : List Char) :
    readAssignment? (readValue? limit) ((settingLine key n).toList ++ rest) =
      some (⟨[], key, .integer n⟩, '\n' :: rest) := by
  have hread : readKey? (key.toList ++ (' ' :: '=' :: ' ' :: (Text.numeral n ++ '\n' :: rest))) =
      some (([], key), '=' :: ' ' :: (Text.numeral n ++ '\n' :: rest)) := by
    rw [readKey?_bare hkey (by simp [isKeyCharacter]) (by simp [skipBlanks, isBlankCharacter]),
      String.ofList_toList]
    rfl
  have hnumeral : ∀ c ∈ Text.numeral n, c.isDigit = true := fun _ => Text.isDigit_of_mem_numeral
  have hblank : skipBlanks (' ' :: (Text.numeral n ++ '\n' :: rest)) =
      Text.numeral n ++ '\n' :: rest :=
    skipBlanks_of_ne_cons (line_ne_cons hnumeral rest _ rfl (by decide))
      (line_ne_cons hnumeral rest _ rfl (by decide))
  simp only [toList_settingLine_append, readAssignment?, hread, skip?, if_true, hblank,
    readValue?_numeral h, Option.bind_eq_bind, Option.bind_some]
  rfl

/-- A line that gives a number to a bare key is read as that assignment. -/
theorem readLine?_settingLine {key : String} (hkey : IsBareKey key.toList) {n : Nat}
    (h : n < power 2 63) (limit : Nat) (rest : List Char) :
    readLine? limit ((settingLine key n).toList ++ rest) =
      some (some (.assignment ⟨[], key, .integer n⟩), '\n' :: rest) := by
  have hassign := readAssignment?_settingLine hkey h limit rest
  rw [toList_settingLine_append] at hassign ⊢
  rw [readLine?.eq_3 _ _ (fun _ => hkey.append_ne_cons rfl _ _) (hkey.append_ne_cons rfl _),
    hkey.holds_something, hassign]
  rfl

/-- A line is passed, and what it holds comes before what the later lines hold. -/
theorem readLines?_cons {limit lines : Nat} {s rest : List Char} {line : Option Line}
    (hne : s ≠ []) (hline : readLine? limit (skipBlanks s) = some (line, '\n' :: rest)) :
    readLines? limit (lines + 1) s = (readLines? limit lines rest).map (line.toList ++ ·) := by
  rw [readLines?.eq_3 _ _ _ hne, hline]
  have hend : skipLineEnd? ('\n' :: rest) = some rest := rfl
  simp only [Option.bind_eq_bind, Option.bind_some, hend]
  cases readLines? limit lines rest <;> rfl

/-- A line that gives a number to a bare key adds that assignment. -/
theorem readLines?_settingLine {key : String} (hkey : IsBareKey key.toList) {n : Nat}
    (h : n < power 2 63) (limit lines : Nat) (rest : List Char) :
    readLines? limit (lines + 1) ((settingLine key n).toList ++ rest) =
      (readLines? limit lines rest).map (.assignment ⟨[], key, .integer n⟩ :: ·) := by
  have hread := readLine?_settingLine hkey h limit rest
  rw [toList_settingLine_append] at hread ⊢
  rw [readLines?_cons (by simp) (by rw [hkey.skipBlanks_append, hread])]
  rfl

end Toml

namespace Settings

variable {tolerance : Tolerance} {content : String}

theorem le_greatestTomlInteger_iff {n : Nat} : n ≤ greatestTomlInteger ↔ n < power 2 63 :=
  Nat.le_sub_one_iff_lt (power_pos 63 (by decide))

/-- A tolerance can be written if both its numbers are below the 63rd power of two. -/
theorem text?_eq_some_iff : text? tolerance = some content ↔
    (tolerance.maxEdits < power 2 63 ∧ tolerance.minTypoLength < power 2 63) ∧
      "[fuzzy]\n" ++ settingLine "max_edits" tolerance.maxEdits
        ++ settingLine "min_typo_len" tolerance.minTypoLength = content := by
  rw [text?, Option.ite_none_right_eq_some, Bool.and_eq_true, decide_eq_true_eq,
    decide_eq_true_eq, Option.some.injEq, le_greatestTomlInteger_iff, le_greatestTomlInteger_iff]

theorem text?_eq_none_iff : text? tolerance = none ↔
    power 2 63 ≤ tolerance.maxEdits ∨ power 2 63 ≤ tolerance.minTypoLength := by
  rw [← Nat.not_lt, ← Nat.not_lt, ← not_and_or, Option.eq_none_iff_forall_ne_some]
  exact ⟨fun hnone h => hnone _ (text?_eq_some_iff.2 ⟨h, rfl⟩),
    fun h content htext => h (text?_eq_some_iff.1 htext).1⟩

/-- The text of a tolerance is a TOML text of one table with both numbers. -/
theorem read?_of_text? (h : text? tolerance = some content) : Toml.read? content =
    some (.record [("fuzzy", .record [("max_edits", .integer tolerance.maxEdits),
      ("min_typo_len", .integer tolerance.minTypoLength)])]) := by
  obtain ⟨⟨hedits, hlength⟩, rfl⟩ := text?_eq_some_iff.1 h
  generalize htext : ("[fuzzy]\n" ++ settingLine "max_edits" tolerance.maxEdits
    ++ settingLine "min_typo_len" tolerance.minTypoLength).toList = text
  have hsplit : text = '[' :: ("fuzzy".toList ++ ']' :: '\n' ::
      ((settingLine "max_edits" tolerance.maxEdits).toList ++
        ((settingLine "min_typo_len" tolerance.minTypoLength).toList ++ []))) := by
    rw [← htext]
    simp
  -- The reader has room for more lines than there are.
  obtain ⟨lines, hlines⟩ : ∃ lines, text.length + 1 = lines + 3 :=
    ⟨text.length - 2, by rw [hsplit]; simp⟩
  have hread : ∀ limit, Toml.readLines? limit (lines + 3) text =
      some [.header ⟨.single, [], "fuzzy"⟩,
        .assignment ⟨[], "max_edits", .integer tolerance.maxEdits⟩,
        .assignment ⟨[], "min_typo_len", .integer tolerance.minTypoLength⟩] := by
    intro limit
    rw [hsplit, Toml.readLines?_cons (List.cons_ne_nil _ _)
        (Toml.readLine?_header (by decide) limit _),
      Toml.readLines?_settingLine (by decide) hedits,
      Toml.readLines?_settingLine (by decide) hlength, Toml.readLines?]
    rfl
  have hmark : Toml.skipByteOrderMark text = text := by
    rw [hsplit]
    rfl
  rw [Toml.read?, htext, hmark, hlines, hread]
  rfl

/-- Whatever tolerance can be written, its text describes that tolerance. -/
theorem readText?_of_text? (h : text? tolerance = some content) :
    readText? content = some tolerance := by
  rw [readText?, read?_of_text? h]
  simp [Value.member?, Value.valueOfKey?, Value.withDefault, Tolerance.ofValue?, Value.toNat?]

end Settings

end InventorySearch
