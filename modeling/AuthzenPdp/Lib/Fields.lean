import Mathlib.Data.Set.Basic

/-!
# Fields put together

Texts that are put together from parts, and when the parts can be read back.

* `split`: the fields between separators, `split_intercalate`;
* `PrefixFree`: no word continues another;
* **`append_inj_iff`**: the words that can be told from what follows them.
-/

namespace Fields

variable {α : Type*}

/-- The fields of a text; the empty text has none. -/
def split [DecidableEq α] (sep : α) (l : List α) : List (List α) :=
  if l = [] then [] else l.splitOn sep

/-- **Fields are read back**, when none is empty or has the separator. -/
theorem split_intercalate [DecidableEq α] {sep : α} {fields : List (List α)}
    (hne : [] ∉ fields) (hsep : ∀ f ∈ fields, sep ∉ f) :
    split sep ([sep].intercalate fields) = fields := by
  cases fields with
  | nil => rfl
  | cons f fields =>
    have hf : f ≠ [] := fun h => hne (h ▸ List.mem_cons_self)
    have hnil : [sep].intercalate (f :: fields) ≠ [] := by
      cases fields <;> simp [hf]
    rw [split, if_neg hnil]
    exact List.splitOn_intercalate sep hsep (List.cons_ne_nil _ _)

/-- No word of `S` continues another. -/
def PrefixFree (S : Set (List α)) : Prop := ∀ l ∈ S, ∀ l' ∈ S, l <+: l' → l = l'

/-- **The words that can be told from what follows them** are those of a prefix-free set. -/
theorem append_inj_iff {S : Set (List α)} :
    (∀ l ∈ S, ∀ l' ∈ S, ∀ r r', l ++ r = l' ++ r' → l = l' ∧ r = r') ↔ PrefixFree S := by
  constructor
  · rintro h l hl _ hl' ⟨r, rfl⟩
    exact (h l hl _ hl' r [] (List.append_nil _).symm).1
  · intro h l hl l' hl' r r' heq
    have hsame : l = l' := by
      rcases List.prefix_or_prefix_of_prefix (List.prefix_append l r)
        (heq ▸ List.prefix_append l' r') with hpre | hpre
      · exact h l hl l' hl' hpre
      · exact (h l' hl' l hl hpre).symm
    subst hsame
    exact ⟨rfl, List.append_cancel_left heq⟩

end Fields
