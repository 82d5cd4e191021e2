import InventorySearch.Json.Reader
import InventorySearch.Proofs.JsonText

/-!
# JSON texts and their trees

The reader rebuilds a tree from its tokens (`foldlM_tokens`): behind the tokens of a value
it has that value complete, within the lists and objects that were open before.  With the
tokens of a text, `read?_render` says that the text of a tree reads back as the tree, in
both layouts and with blanks behind it.
-/

namespace InventorySearch.Json

/-- The tokens of a tree begin with one that is not the end of a list. -/
theorem exists_tokens_eq_cons (tree : Json) :
    ∃ token rest, tree.tokens = token :: rest ∧ token ≠ .arrayEnd := by
  cases tree with
  | null | truth value | number literal | text content =>
    rw [tokens]
    exact ⟨_, _, rfl, by simp⟩
  | array elements =>
    cases elements <;> (rw [tokens]; exact ⟨_, _, rfl, by simp⟩)
  | object fields =>
    cases fields <;> (rw [tokens]; exact ⟨_, _, rfl, by simp⟩)

/-- Tokens are read in a row. -/
theorem Reader.foldlM_append {row rest : List Token} {reader after : Reader}
    (h : row.foldlM step reader = some after) :
    (row ++ rest).foldlM step reader = rest.foldlM step after := by
  rw [List.foldlM_append, h]
  rfl

/-- The first element of a list is read like any other value. -/
theorem foldlM_tokens_first {tree : Json} {outer : List Frame} {after : Reader}
    (h : tree.tokens.foldlM Reader.step (.expectValue (.elements [] :: outer)) = some after) :
    tree.tokens.foldlM Reader.step (.expectFirstElement outer) = some after := by
  obtain ⟨token, rest, htokens, hfirst⟩ := tree.exists_tokens_eq_cons
  have hstep : (Reader.expectFirstElement outer).step token =
      (Reader.expectValue (.elements [] :: outer)).step token := by
    cases token <;> first | rfl | exact absurd rfl hfirst
  rw [htokens, List.foldlM_cons] at h ⊢
  rw [hstep]
  exact h

mutual

/-- Behind the tokens of a tree, the reader has the tree complete. -/
theorem foldlM_tokens :
    ∀ (tree : Json) (outer : List Frame),
      tree.tokens.foldlM Reader.step (.expectValue outer) = some (.complete tree outer)
  | null, _ | truth _, _ | number _, _ | text _, _ | array [], _ | object [], _ => by
    rw [tokens]
    rfl
  | array (element :: elements), outer => by
    have hstart : [Token.arrayStart].foldlM Reader.step (.expectValue outer) =
        some (.expectFirstElement outer) := rfl
    have helement := foldlM_tokens_first (foldlM_tokens element (.elements [] :: outer))
    have helements := foldlM_elementTokens elements element [] outer
    rw [tokens]
    exact (Reader.foldlM_append hstart).trans ((Reader.foldlM_append helement).trans helements)
  | object ((key, value) :: fields), outer => by
    have hstart : [Token.objectStart, .text key, .colon].foldlM Reader.step
        (.expectValue outer) = some (.expectValue (.fields [] key :: outer)) := rfl
    have hvalue := foldlM_tokens value (.fields [] key :: outer)
    have hfields := foldlM_fieldTokens fields value [] key outer
    rw [tokens]
    exact (Reader.foldlM_append hstart).trans ((Reader.foldlM_append hvalue).trans hfields)

/-- The reader completes a list whose elements up to one are complete. -/
theorem foldlM_elementTokens :
    ∀ (elements : List Json) (element : Json) (before : List Json) (outer : List Frame),
      (elementTokens elements ++ [Token.arrayEnd]).foldlM Reader.step
          (.complete element (.elements before :: outer)) =
        some (.complete (.array ((element :: before).reverse ++ elements)) outer)
  | [], element, before, outer => by
    rw [elementTokens, List.append_nil]
    rfl
  | next :: elements, element, before, outer => by
    have hcomma : [Token.comma].foldlM Reader.step
        (.complete element (.elements before :: outer)) =
          some (.expectValue (.elements (element :: before) :: outer)) := rfl
    have hnext := foldlM_tokens next (.elements (element :: before) :: outer)
    have helements := foldlM_elementTokens elements next (element :: before) outer
    rw [List.reverse_cons, List.append_assoc] at helements
    rw [elementTokens, List.cons_append, List.append_assoc]
    exact (Reader.foldlM_append hcomma).trans ((Reader.foldlM_append hnext).trans helements)

/-- The reader completes an object whose fields up to one are complete. -/
theorem foldlM_fieldTokens :
    ∀ (fields : List (Option String × Json)) (value : Json)
      (before : List (Option String × Json)) (key : Option String) (outer : List Frame),
      (fieldTokens fields ++ [Token.objectEnd]).foldlM Reader.step
          (.complete value (.fields before key :: outer)) =
        some (.complete (.object (((key, value) :: before).reverse ++ fields)) outer)
  | [], value, before, key, outer => by
    rw [fieldTokens, List.append_nil]
    rfl
  | (nextKey, next) :: fields, value, before, key, outer => by
    have hcomma : [Token.comma, .text nextKey, .colon].foldlM Reader.step
        (.complete value (.fields before key :: outer)) =
          some (.expectValue (.fields ((key, value) :: before) nextKey :: outer)) := rfl
    have hnext := foldlM_tokens next (.fields ((key, value) :: before) nextKey :: outer)
    have hfields := foldlM_fieldTokens fields next ((key, value) :: before) nextKey outer
    rw [List.reverse_cons, List.append_assoc] at hfields
    rw [fieldTokens, List.cons_append, List.cons_append, List.cons_append, List.append_assoc]
    exact (Reader.foldlM_append hcomma).trans ((Reader.foldlM_append hnext).trans hfields)

end

/-- The text of a tree reads back as the tree, with blanks behind it or none. -/
theorem read?_render (layout : Layout) {tree : Json} (h : tree.IsWritable) {blanks : List Char}
    (hblanks : ∀ c ∈ blanks, isBlankCharacter c = true) :
    read? (tree.render layout ++ String.ofList blanks) = some tree := by
  have htree := foldlM_tokens tree []
  have htokens := tokens?_render layout h hblanks
  simp [read?, render, htokens, ofTokens?, htree, Reader.result?]

end InventorySearch.Json
