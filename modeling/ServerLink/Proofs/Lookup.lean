import Mathlib

/-!
# Lists of keys and values, each key once

Where no key stands twice in a list, looking a key up finds exactly what is in the list.

* **`lookup_eq_some_iff_mem`** — looking up is membership.
* `lookup_perm` — the order of the list does not matter.
-/

namespace ServerLink

variable {α β : Type} [BEq α] [LawfulBEq α] {l m : List (α × β)} {a : α} {b : β}

lemma mem_of_lookup_eq_some (h : l.lookup a = some b) : (a, b) ∈ l := by
  obtain ⟨front, back, rfl, -⟩ := List.lookup_eq_some_iff.1 h
  simp

/-- **Looking up a key** that stands nowhere twice is membership. -/
theorem lookup_eq_some_iff_mem (hl : (l.map Prod.fst).Nodup) :
    l.lookup a = some b ↔ (a, b) ∈ l := by
  refine ⟨mem_of_lookup_eq_some, fun h => ?_⟩
  obtain ⟨front, back, rfl⟩ := List.append_of_mem h
  refine List.lookup_eq_some_iff.2 ⟨front, back, rfl, fun p hp => ?_⟩
  rw [List.map_append, List.map_cons, List.nodup_append] at hl
  have hne := hl.2.2 p.1 (List.mem_map_of_mem hp) a (by simp)
  simpa using Ne.symm hne

lemma lookup_eq_none_iff_notMem : l.lookup a = none ↔ a ∉ l.map Prod.fst := by
  rw [List.lookup_eq_none_iff, List.mem_map]
  constructor
  · rintro h ⟨p, hp, rfl⟩
    simpa using h p hp
  · intro h p hp
    simpa using fun heq => h ⟨p, hp, heq.symm⟩

lemma lookup_perm (hl : (l.map Prod.fst).Nodup) (h : l.Perm m) : l.lookup a = m.lookup a := by
  have hm : (m.map Prod.fst).Nodup := (h.map _).nodup_iff.1 hl
  refine Option.ext fun b => ?_
  rw [lookup_eq_some_iff_mem hl, lookup_eq_some_iff_mem hm, h.mem_iff]

end ServerLink
