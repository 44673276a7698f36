import Mathlib.Data.List.Basic
import DiceBot.Text.Basic

/-!
# Joined texts

Texts that lack a character can be told apart again after they are joined with
that character between them, or with that character at the end of each.
-/

namespace DiceBot.Text

variable {a : Char} {sep : Text}

/-- The first occurrence of a character divides a text in one way. -/
theorem eq_and_eq_of_append_cons {s t u v : Text} (hs : a ∉ s) (ht : a ∉ t)
    (h : s ++ a :: u = t ++ a :: v) : s = t ∧ u = v := by
  induction s generalizing t with
  | nil =>
    cases t with
    | nil => exact ⟨rfl, (List.cons.inj h).2⟩
    | cons c t => exact absurd ((List.cons.inj h).1 ▸ List.mem_cons_self) ht
  | cons c s ih =>
    cases t with
    | nil => exact absurd ((List.cons.inj h).1 ▸ List.mem_cons_self) hs
    | cons d t =>
      obtain ⟨rfl, htail⟩ := List.cons.inj h
      obtain ⟨rfl, rfl⟩ := ih (fun hm => hs (List.mem_cons_of_mem _ hm))
        (fun hm => ht (List.mem_cons_of_mem _ hm)) htail
      exact ⟨rfl, rfl⟩

theorem eq_of_intercalate_map_append_eq {xs ys : List Text} (hlen : xs.length = ys.length)
    (hxs : ∀ x ∈ xs, a ∉ x) (hys : ∀ y ∈ ys, a ∉ y)
    (h : sep.intercalate (xs.map (· ++ [a])) = sep.intercalate (ys.map (· ++ [a]))) : xs = ys := by
  induction xs generalizing ys with
  | nil => exact (List.length_eq_zero_iff.1 hlen.symm).symm
  | cons x xs ih =>
    cases ys with
    | nil => cases hlen
    | cons y ys =>
      have hlen' : xs.length = ys.length := Nat.succ.inj hlen
      by_cases hnil : xs = []
      · subst hnil
        obtain rfl : ys = [] := List.length_eq_zero_iff.1 hlen'.symm
        simpa using h
      · have hnil' : ys ≠ [] := fun he => hnil (by simpa [he] using hlen')
        have hmap : ∀ zs : List Text, zs ≠ [] → zs.map (· ++ [a]) ≠ [] := by simp
        rw [List.map_cons, List.map_cons, List.intercalate_cons_of_ne_nil (hmap _ hnil),
          List.intercalate_cons_of_ne_nil (hmap _ hnil'), List.append_assoc, List.append_assoc,
          List.append_assoc, List.append_assoc] at h
        obtain ⟨rfl, hrest⟩ := eq_and_eq_of_append_cons (hxs x (by simp)) (hys y (by simp)) h
        have hxs' : ∀ z ∈ xs, a ∉ z := fun z hz => hxs z (List.mem_cons_of_mem _ hz)
        have hys' : ∀ z ∈ ys, a ∉ z := fun z hz => hys z (List.mem_cons_of_mem _ hz)
        rw [ih hlen' hxs' hys' (List.append_cancel_left hrest)]

theorem intercalate_cons_append_singleton {xs : List Text} (h : xs ≠ []) :
    (a :: sep).intercalate xs ++ [a] = sep.intercalate (xs.map (· ++ [a])) := by
  induction xs with
  | nil => exact absurd rfl h
  | cons x xs ih =>
    by_cases hnil : xs = []
    · subst hnil
      simp
    · have hmap : xs.map (· ++ [a]) ≠ [] := by simpa using hnil
      rw [List.map_cons, List.intercalate_cons_of_ne_nil hnil,
        List.intercalate_cons_of_ne_nil hmap, List.append_assoc, ih hnil]
      simp

theorem eq_of_intercalate_eq {xs ys : List Text} (hlen : xs.length = ys.length)
    (hxs : ∀ x ∈ xs, a ∉ x) (hys : ∀ y ∈ ys, a ∉ y)
    (h : (a :: sep).intercalate xs = (a :: sep).intercalate ys) : xs = ys := by
  by_cases hnil : xs = []
  · subst hnil
    exact (List.length_eq_zero_iff.1 hlen.symm).symm
  · have hnil' : ys ≠ [] := fun he => hnil (by simpa [he] using hlen)
    have hjoin : sep.intercalate (xs.map (· ++ [a])) = sep.intercalate (ys.map (· ++ [a])) := by
      rw [← intercalate_cons_append_singleton hnil, h, intercalate_cons_append_singleton hnil']
    exact eq_of_intercalate_map_append_eq hlen hxs hys hjoin

theorem intercalate_subset {chars : Text} {xs : List Text} (hsep : sep ⊆ chars)
    (hxs : ∀ x ∈ xs, x ⊆ chars) : sep.intercalate xs ⊆ chars := by
  induction xs with
  | nil => exact List.nil_subset _
  | cons x xs ih =>
    have hx := hxs x (by simp)
    have hrest := ih fun z hz => hxs z (List.mem_cons_of_mem _ hz)
    by_cases hnil : xs = []
    · subst hnil
      simpa using hx
    · rw [List.intercalate_cons_of_ne_nil hnil]
      exact List.append_subset.2 ⟨List.append_subset.2 ⟨hx, hsep⟩, hrest⟩

end DiceBot.Text
