import PointSelect.Directory
import PointSelect.Proofs.Text.Utf8
import Mathlib.Data.List.Basic

namespace PointSelect.Directory

theorem find?_replace {α : Type} (files : List (Place × α)) (place : Place) (content : α)
    (q : Place) :
    (files.map fun f => if f.1 = place then (place, content) else f).find? (·.1 = q) =
      (files.find? (·.1 = q)).map fun f => if f.1 = place then (place, content) else f := by
  rw [List.find?_map]
  congr 2
  funext f
  by_cases hf : f.1 = place
  · simp [hf]
  · simp [hf]

/-- A file that is put somewhere is found there, and every other place keeps what it has. -/
theorem get?_put (d : Directory) (place : Place) (content : Text.Bytes) (q : Place) :
    (d.put place content).get? q = if q = place then some content else d.get? q := by
  unfold put
  split_ifs with hp hq hq
  · subst hq
    obtain ⟨f, hf, -⟩ := Option.map_eq_some_iff.mp (Option.eq_some_of_isSome hp)
    have hfq : f.1 = q := by simpa using List.find?_some hf
    rw [get?, find?_replace, hf]
    simp [hfq]
  · rw [get?, find?_replace, Option.map_map, get?]
    cases hf : d.files.find? (·.1 = q) with
    | none => rfl
    | some f =>
      have hfq : f.1 = q := by simpa using List.find?_some hf
      have hne : f.1 ≠ place := by rwa [hfq]
      simp [hne]
  · subst hq
    have hn : d.files.find? (·.1 = q) = none := by
      rw [Option.isSome_iff_ne_none, Ne, not_not] at hp
      exact Option.map_eq_none_iff.mp hp
    rw [get?, List.find?_append, hn]
    simp
  · have hne : place ≠ q := fun h => hq h.symm
    simp [get?, List.find?_append, hne]

theorem get?_append (d : Directory) (place : Place) (content : Text.Bytes) (q : Place) :
    (d.append place content).get? q =
      if q = place then some ((d.get? place).getD [] ++ content) else d.get? q := by
  rw [append, get?_put]

/-- A file that was created is empty, and nothing else has changed. -/
theorem eq_put_of_create {d d' : Directory} {path : String} (h : d.create path = .ok d') :
    d' = d.put (Place.ofPath path) [] := by
  unfold create at h
  simp only at h
  split_ifs at h <;> exact (Except.ok.inj h).symm

/-- A file that is there can be created anew. -/
theorem create_of_isSome {d : Directory} {path : String}
    (file : (d.get? (Place.ofPath path)).isSome = true)
    (name : Place.namesDirectory path = false) :
    d.create path = .ok (d.put (Place.ofPath path) []) := by
  simp [create, file, name]

theorem namesDirectory_of_create {d d' : Directory} {path : String}
    (h : d.create path = .ok d') : Place.namesDirectory path = false := by
  unfold create at h
  simp only at h
  split_ifs at h with h1 h2 h3 h4 h5 h6
  · simpa using h2
  · simpa using h6

theorem readText_eq_ok {d : Directory} {path text : String}
    (h : d.open? path = .ok (some (Text.Utf8.encodeString text))) : d.readText path = .ok text := by
  simp only [readText, h, Text.Utf8.decodeString?_encodeString]

end PointSelect.Directory
