import PointSelect.Proofs.Pattern.Marker
import Mathlib.Algebra.Group.Nat.Even
import Mathlib.Data.List.Basic
import Mathlib.Data.List.Induction
import Mathlib.Data.List.TakeWhile

namespace PointSelect.Pattern

open Text (isBlank trim)

/-- A path written with a backslash before every marker. -/
def escape (path : String) : String := String.ofList (escapeMarkers path.toList)

/-- The run of backslashes at the end of a text has an even length. -/
def EndsEven (cs : List Char) : Prop := Even (cs.reverse.takeWhile (· == '\\')).length

instance (cs : List Char) : Decidable (EndsEven cs) := inferInstanceAs (Decidable (Even _))

/-- Every marker of a path stands after an even number of backslashes. -/
def Aligned (path : List Char) : Prop :=
  ∀ before k after, path = before ++ Coordinate.marker k :: after → EndsEven before

/-- What stands behind the path in a text that is cut: the marker and the rest. -/
def afterPath (found : Option (Coordinate × List Char)) : List Char :=
  found.elim [] fun (k, rest) => k.marker :: rest

theorem endsEven_nil : EndsEven [] := by decide

/-- A character that is no backslash ends every run. -/
theorem endsEven_singleton {c : Char} (h : c ≠ '\\') : EndsEven [c] := by
  simp [EndsEven, h]

/-- A backslash with the character after it is one pair, whatever that character is. -/
theorem endsEven_pair (c : Char) : EndsEven ['\\', c] := by
  by_cases h : c = '\\'
  · rw [h]
    decide
  · simp [EndsEven, h]

/-- A start whose own run is even changes no run after it. -/
theorem endsEven_append_iff {a : List Char} (ha : EndsEven a) (cs : List Char) :
    EndsEven (a ++ cs) ↔ EndsEven cs := by
  unfold EndsEven at *
  rw [List.reverse_append, List.takeWhile_append]
  split_ifs with h
  · have hall : cs.reverse.takeWhile (· == '\\') = cs.reverse :=
      (List.takeWhile_prefix _).eq_of_length h
    rw [List.length_append, Nat.even_add, hall]
    exact iff_of_eq (by simp [ha])
  · rfl

theorem Aligned.right {a cs : List Char} (ha : EndsEven a) (h : Aligned (a ++ cs)) :
    Aligned cs := by
  intro before k after hcs
  have hrun := h (a ++ before) k after (by rw [hcs, List.append_assoc])
  exact (endsEven_append_iff ha before).mp hrun

theorem escapeMarkers_append (a b : List Char) :
    escapeMarkers (a ++ b) = escapeMarkers a ++ escapeMarkers b := List.flatMap_append

/-- A path is written with backslashes before its markers, never behind one. -/
theorem getLast?_escapeMarkers (path : List Char) :
    (escapeMarkers path).getLast? = path.getLast? := by
  cases path using List.reverseRecOn with
  | nil => rfl
  | append_singleton path c =>
    have hlast : (escapeMarkers [c]).getLast? = some c := by
      rw [escapeMarkers_cons]
      split_ifs <;> rfl
    have hne : escapeMarkers [c] ≠ [] := by
      intro h
      rw [h] at hlast
      cases hlast
    rw [escapeMarkers_append, List.getLast?_append_of_ne_nil _ hne, hlast,
      List.getLast?_concat]

/-- A character that is no backslash is cut by itself, escaped or not. -/
theorem Cut.cons {cs path : List Char} {found : Option (Coordinate × List Char)}
    (h : Cut cs path found) {c : Char} (hc : c ≠ '\\') :
    Cut (escapeMarkers [c] ++ cs) (c :: path) found := by
  cases hk : Coordinate.ofMarker? c with
  | none =>
    rw [escapeMarkers_other hk]
    exact .plain hc hk h
  | some k =>
    obtain rfl := Coordinate.ofMarker?_eq_some_iff.mp hk
    rw [escapeMarkers_marker]
    exact .escaped k h

/-- Where no marker stands, none can stand wrong. -/
theorem aligned_of_unmarked {a : List Char} (h : ∀ c ∈ a, Coordinate.ofMarker? c = none) :
    Aligned a := by
  intro before k after ha
  have hk := h k.marker (by simp [ha])
  rw [Coordinate.ofMarker?_marker] at hk
  cases hk

theorem aligned_singleton (c : Char) : Aligned [c] := by
  intro before k after h
  cases before with
  | nil => exact endsEven_nil
  | cons d before => simp at h

theorem Aligned.append {a path : List Char} (h : Aligned a) (ha : EndsEven a)
    (hpath : Aligned path) : Aligned (a ++ path) := by
  intro before k after happ
  rcases List.append_eq_append_iff.mp happ with ⟨more, hbefore, hmore⟩ | ⟨more, hleft, hmore⟩
  · -- the marker stands in the path, and what comes before it there decides
    rw [hbefore]
    exact (endsEven_append_iff ha more).mpr (hpath more k after hmore)
  · cases more with
    | nil =>
      rw [List.append_nil] at hleft
      rwa [← hleft]
    | cons d more =>
      obtain ⟨rfl, -⟩ := List.cons.inj hmore
      exact h before k more hleft

/-- No marker in a path stands where writing it with a backslash would spoil a pair. -/
theorem Cut.aligned {cs path : List Char} {found : Option (Coordinate × List Char)}
    (h : Cut cs path found) : Aligned path := by
  induction h with
  | nothing => exact aligned_of_unmarked (by simp)
  | backslash => exact aligned_singleton '\\'
  | escaped k rest ih =>
    exact (aligned_singleton k.marker).append (endsEven_singleton k.marker_ne_backslash) ih
  | @pair cs path found c other rest ih =>
    have hpair : Aligned ['\\', c] := by
      apply aligned_of_unmarked
      rintro d hd
      rcases List.mem_cons.mp hd with rfl | hd
      · rfl
      · rwa [List.mem_singleton.mp hd]
    exact hpair.append (endsEven_pair c) ih
  | marker k rest => exact aligned_of_unmarked (by simp)
  | plain hc other rest ih => exact (aligned_singleton _).append (endsEven_singleton hc) ih

/-- A path before a marker ends in no half of a pair. -/
theorem Cut.endsEven {cs path rest : List Char} {k : Coordinate}
    (h : Cut cs path (some (k, rest))) : EndsEven path := by
  generalize hf : some (k, rest) = found at h
  induction h with
  | nothing => cases hf
  | backslash => cases hf
  | escaped m _ ih =>
    exact (endsEven_append_iff (endsEven_singleton m.marker_ne_backslash) _).mpr (ih hf)
  | pair other _ ih => exact (endsEven_append_iff (endsEven_pair _) _).mpr (ih hf)
  | marker _ _ => exact endsEven_nil
  | plain hc other _ ih => exact (endsEven_append_iff (endsEven_singleton hc) _).mpr (ih hf)

theorem not_endsEven_backslash : ¬EndsEven ['\\'] := by decide

theorem cut_afterPath (found : Option (Coordinate × List Char)) : Cut (afterPath found) [] found := by
  cases found with
  | none => exact .nothing
  | some marked => exact .marker marked.1 marked.2

/-- An aligned path is cut whole when it is written with its backslashes. The induction takes two
characters at a backslash, as the cut does. -/
theorem cut_escapeMarkers {found : Option (Coordinate × List Char)} {path : List Char}
    (h : Aligned path) (hend : found = none ∨ EndsEven path) :
    Cut (escapeMarkers path ++ afterPath found) path found := by
  induction path using List.twoStepInduction with
  | nil => exact cut_afterPath found
  | singleton c =>
    by_cases hc : c = '\\'
    · subst hc
      obtain rfl := hend.resolve_right not_endsEven_backslash
      exact .backslash
    · exact (cut_afterPath found).cons hc
  | cons_cons c d path ih ihtail =>
    by_cases hc : c = '\\'
    · subst hc
      have hd : Coordinate.ofMarker? d = none := by
        by_contra hne
        obtain ⟨k, hk⟩ := Option.ne_none_iff_exists'.mp hne
        obtain rfl := Coordinate.ofMarker?_eq_some_iff.mp hk
        exact not_endsEven_backslash (h ['\\'] k path rfl)
      have hpair := endsEven_pair d
      have hrest := ih (h.right (a := ['\\', d]) hpair)
        (hend.imp_right (endsEven_append_iff hpair path).mp)
      rw [escapeMarkers_other (by decide), escapeMarkers_other hd]
      exact .pair hd hrest
    · have hsingle := endsEven_singleton hc
      have hrest := ihtail d (h.right (a := [c]) hsingle)
        (hend.imp_right (endsEven_append_iff hsingle (d :: path)).mp)
      have hcut := hrest.cons hc
      rwa [← List.append_assoc, ← escapeMarkers_append] at hcut

section

variable {body rest : List Char} (hbody : ∀ c ∈ body, isBlank c = false)
  (hrest : ∀ c ∈ rest.head?, isBlank c = true)
include hbody hrest

/-- A body without blanks ends where the first blank stands. -/
theorem takeWhile_body : (body ++ rest).takeWhile (fun c => !isBlank c) = body := by
  have hb : ∀ c ∈ body, (!isBlank c) = true := by simpa using hbody
  rw [List.takeWhile_append_of_pos hb]
  cases rest with
  | nil => simp
  | cons c cs => simp [hrest c rfl]

theorem dropWhile_body : (body ++ rest).dropWhile (fun c => !isBlank c) = rest := by
  have hb : ∀ c ∈ body, (!isBlank c) = true := by simpa using hbody
  rw [List.dropWhile_append_of_pos hb]
  cases rest with
  | nil => rfl
  | cons c cs => simp [hrest c rfl]

end

theorem toList_escape (path : String) : (escape path).toList = escapeMarkers path.toList := by
  rw [escape, String.toList_ofList]

theorem aligned_split (text : String) : Aligned (split text).path.toList := by
  have haligned := (cut_cutAtMarker text.toList).aligned
  rw [split]
  split
  · next path hcut =>
    rw [hcut] at haligned
    rwa [String.toList_ofList]
  · next path k rest hcut =>
    rw [hcut] at haligned
    rwa [String.toList_ofList]

section

variable {text : String}

theorem text_eq_of_unmarked (h : (split text).selector = none) :
    text = escape (split text).path ∧ (split text).trailing = "" := by
  have hcut := cut_cutAtMarker text.toList
  generalize (cutAtMarker text.toList).1 = path at hcut
  generalize (cutAtMarker text.toList).2 = found at hcut
  rw [← String.ofList_toList (s := text)] at h
  cases found with
  | some marked =>
    rw [split_of_marked (k := marked.1) hcut] at h
    cases h
  | none =>
    have hsplit := split_of_unmarked hcut
    rw [String.ofList_toList] at hsplit
    rw [hsplit]
    refine ⟨?_, rfl⟩
    apply String.toList_inj.mp
    rw [toList_escape, String.toList_ofList, hcut.text_eq]
    exact List.append_nil _

theorem endsEven_split {k : Coordinate} {body : String}
    (h : (split text).selector = some (k, body)) : EndsEven (split text).path.toList := by
  obtain ⟨rest, hcut, -⟩ := exists_cut_of_split h
  exact hcut.endsEven

theorem exists_text_eq_of_marked {k : Coordinate} {body : String}
    (h : (split text).selector = some (k, body)) : ∃ r : String,
      text = escape (split text).path ++ k.marker.toString ++ body ++ r ∧
      (∀ c ∈ body.toList, isBlank c = false) ∧ (∀ c ∈ r.toList.head?, isBlank c = true) ∧
      (split text).trailing = String.ofList (trim r.toList) := by
  obtain ⟨rest, hcut, rfl⟩ := exists_cut_of_split h
  have hsplit := split_of_marked hcut
  rw [String.ofList_toList, String.ofList_toList] at hsplit
  refine ⟨String.ofList (rest.dropWhile fun c => !isBlank c), ?_, ?_, ?_, ?_⟩
  · apply String.toList_inj.mp
    rw [hcut.text_eq]
    simp [toList_escape]
  · intro c hc
    rw [String.toList_ofList] at hc
    simpa using List.mem_takeWhile_imp hc
  · intro c hc
    rw [String.toList_ofList] at hc
    have hh := List.head?_dropWhile_not (fun c => !isBlank c) rest
    rw [hc] at hh
    simpa using hh
  · rw [hsplit, String.toList_ofList]

end

section

variable {path : String} (haligned : Aligned path.toList)
include haligned

theorem split_escape : split (escape path) = ⟨path, none, ""⟩ := by
  have hsplit := split_of_unmarked (cut_escapeMarkers haligned (.inl rfl))
  rwa [afterPath, Option.elim_none, List.append_nil, String.ofList_toList] at hsplit

theorem split_escape_append (heven : EndsEven path.toList) (k : Coordinate) {body r : String}
    (hbody : ∀ c ∈ body.toList, isBlank c = false)
    (hrest : ∀ c ∈ r.toList.head?, isBlank c = true) :
    split (escape path ++ k.marker.toString ++ body ++ r) =
      ⟨path, some (k, body), String.ofList (trim r.toList)⟩ := by
  have hcut : Cut _ path.toList (some (k, body.toList ++ r.toList)) :=
    cut_escapeMarkers haligned (.inr heven)
  have hsplit := split_of_marked hcut
  rw [takeWhile_body hbody hrest, dropWhile_body hbody hrest] at hsplit
  have htext : escape path ++ k.marker.toString ++ body ++ r = String.ofList
      (escapeMarkers path.toList ++ afterPath (some (k, body.toList ++ r.toList))) := by
    apply String.toList_inj.mp
    simp [toList_escape, afterPath]
  rw [htext, hsplit, String.ofList_toList, String.ofList_toList]

end

/-- Splitting and writing with backslashes are inverse to each other. A text is the path written
with backslashes, then the marker with the selector and what is ignored after it, and nothing else.
The paths split off are those whose markers stand after an even number of backslashes, and before a
selector those that end in none or an even number of them: each such path is split off as it was
written. -/
theorem split_inverse :
    (∀ text, Aligned (split text).path.toList) ∧
    (∀ text, (split text).selector = none →
      text = escape (split text).path ∧ (split text).trailing = "") ∧
    (∀ text k body, (split text).selector = some (k, body) →
      EndsEven (split text).path.toList ∧
      ∃ r : String, text = escape (split text).path ++ k.marker.toString ++ body ++ r ∧
        (∀ c ∈ body.toList, isBlank c = false) ∧ (∀ c ∈ r.toList.head?, isBlank c = true) ∧
        (split text).trailing = String.ofList (trim r.toList)) ∧
    ∀ path : String, Aligned path.toList →
      split (escape path) = ⟨path, none, ""⟩ ∧
      (EndsEven path.toList → ∀ (k : Coordinate) (body r : String),
        (∀ c ∈ body.toList, isBlank c = false) → (∀ c ∈ r.toList.head?, isBlank c = true) →
        split (escape path ++ k.marker.toString ++ body ++ r) =
          ⟨path, some (k, body), String.ofList (trim r.toList)⟩) := by
  refine ⟨aligned_split, ?_, ?_, ?_⟩
  · intro text h
    exact text_eq_of_unmarked h
  · intro text k body h
    exact ⟨endsEven_split h, exists_text_eq_of_marked h⟩
  · intro path haligned
    refine ⟨split_escape haligned, ?_⟩
    intro heven k body r hbody hrest
    exact split_escape_append haligned heven k hbody hrest

/-- A path with a marker, a regex escape and a pair of backslashes before a marker, a selector
behind it and words that are ignored. -/
theorem split_inverse_pairs :
    let path := "/a#\\.b\\\\@"
    Aligned path.toList ∧ EndsEven path.toList ∧ escape path = "/a\\#\\.b\\\\\\@" ∧
    split "/a\\#\\.b\\\\\\@#3\u2003x @y " = ⟨path, some (.index, "3"), "x @y"⟩ := by
  intro path
  have hpath : (cutAtMarker (escape path).toList).1 = path.toList := by decide +kernel
  have haligned : Aligned path.toList := by
    rw [← hpath]
    exact (cut_cutAtMarker _).aligned
  have heven : EndsEven path.toList := by decide +kernel
  have hbody : ∀ c ∈ "3".toList, isBlank c = false := by simp [isBlank]
  have hrest : ∀ c ∈ "\u2003x @y ".toList.head?, isBlank c = true := by simp [isBlank]
  have hsplit := (split_inverse.2.2.2 path haligned).2 heven .index "3" "\u2003x @y " hbody hrest
  have hescape : escape path = "/a\\#\\.b\\\\\\@" := by decide +kernel
  have htrim : String.ofList (trim "\u2003x @y ".toList) = "x @y" := by decide +kernel
  rw [hescape, htrim] at hsplit
  exact ⟨haligned, heven, hescape, hsplit⟩

end PointSelect.Pattern
