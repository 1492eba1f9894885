/-!
# Joining texts

* `join` : pieces of text with a separator between them.
* `join_cons_cons` : the separator stands between two pieces, and nowhere else.
-/

set_option autoImplicit false

namespace FormTemplate.Text

/-- Pieces of text with a separator between them. -/
def join (sep : List Char) : List (List Char) → List Char
  | [] => []
  | [p] => p
  | p :: q :: ps => p ++ sep ++ join sep (q :: ps)

@[simp] theorem join_nil (sep : List Char) : join sep [] = [] := rfl

@[simp] theorem join_singleton (sep p : List Char) : join sep [p] = p := rfl

theorem join_cons_cons (sep p q : List Char) (ps : List (List Char)) :
    join sep (p :: q :: ps) = p ++ sep ++ join sep (q :: ps) := rfl

end FormTemplate.Text
