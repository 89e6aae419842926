import PointSelect.Pattern.Parts

namespace PointSelect

@[simp]
theorem Coordinate.ofMarker?_marker (k : Coordinate) : ofMarker? k.marker = some k := by
  cases k <;> rfl

theorem Coordinate.ofMarker?_eq_some_iff {c : Char} {k : Coordinate} :
    ofMarker? c = some k ↔ c = k.marker := by
  constructor
  · intro h
    unfold ofMarker? at h
    split at h
    · cases h
      rfl
    · cases h
      rfl
    · cases h
  · rintro rfl
    exact ofMarker?_marker k

theorem Coordinate.marker_ne_backslash (k : Coordinate) : k.marker ≠ '\\' := by
  cases k <;> decide

namespace Pattern

/-- A path as a pattern has to write it: a backslash stands before every marker. -/
def escapeMarkers (path : List Char) : List Char :=
  path.flatMap fun c => if (Coordinate.ofMarker? c).isSome then ['\\', c] else [c]

theorem escapeMarkers_cons (c : Char) (cs : List Char) : escapeMarkers (c :: cs) =
    (if (Coordinate.ofMarker? c).isSome then ['\\', c] else [c]) ++ escapeMarkers cs := rfl

theorem escapeMarkers_marker (k : Coordinate) (cs : List Char) :
    escapeMarkers (k.marker :: cs) = '\\' :: k.marker :: escapeMarkers cs := by
  simp [escapeMarkers_cons]

theorem escapeMarkers_other {c : Char} (h : Coordinate.ofMarker? c = none) (cs : List Char) :
    escapeMarkers (c :: cs) = c :: escapeMarkers cs := by
  simp [escapeMarkers_cons, h]

/-- The steps by which a text is read up to its first unescaped marker. -/
inductive Cut : List Char → List Char → Option (Coordinate × List Char) → Prop where
  | nothing : Cut [] [] none
  | backslash : Cut ['\\'] ['\\'] none
  | escaped {cs path : List Char} {found : Option (Coordinate × List Char)} (k : Coordinate)
    (rest : Cut cs path found) : Cut ('\\' :: k.marker :: cs) (k.marker :: path) found
  | pair {cs path : List Char} {found : Option (Coordinate × List Char)} {c : Char}
    (other : Coordinate.ofMarker? c = none) (rest : Cut cs path found) :
    Cut ('\\' :: c :: cs) ('\\' :: c :: path) found
  | marker (k : Coordinate) (rest : List Char) : Cut (k.marker :: rest) [] (some (k, rest))
  | plain {cs path : List Char} {found : Option (Coordinate × List Char)} {c : Char}
    (plain : c ≠ '\\') (other : Coordinate.ofMarker? c = none) (rest : Cut cs path found) :
    Cut (c :: cs) (c :: path) found

theorem cutAtMarker_plain {c : Char} (hc : c ≠ '\\') (other : Coordinate.ofMarker? c = none)
    (cs : List Char) :
    cutAtMarker (c :: cs) = (c :: (cutAtMarker cs).1, (cutAtMarker cs).2) := by
  rw [cutAtMarker]
  · simp only [other]
  · intro h
    exact absurd h hc
  · intro d ds h
    exact absurd h hc

theorem cutAtMarker_marker (k : Coordinate) (rest : List Char) :
    cutAtMarker (k.marker :: rest) = ([], some (k, rest)) := by
  have hc := k.marker_ne_backslash
  rw [cutAtMarker]
  · simp only [Coordinate.ofMarker?_marker]
  · intro h
    exact absurd h hc
  · intro d ds h
    exact absurd h hc

theorem cutAtMarker_pair (c : Char) (cs : List Char) : cutAtMarker ('\\' :: c :: cs) =
    (if (Coordinate.ofMarker? c).isSome then c :: (cutAtMarker cs).1
      else '\\' :: c :: (cutAtMarker cs).1, (cutAtMarker cs).2) := rfl

theorem cut_cutAtMarker (cs : List Char) : Cut cs (cutAtMarker cs).1 (cutAtMarker cs).2 := by
  induction cs using cutAtMarker.induct with
  | case1 => exact .nothing
  | case2 => exact .backslash
  | case3 c cs path rest hcut ih =>
    rw [hcut] at ih
    cases hk : Coordinate.ofMarker? c with
    | none =>
      have hs : cutAtMarker ('\\' :: c :: cs) = ('\\' :: c :: path, rest) := by
        simp [cutAtMarker_pair, hk, hcut]
      rw [hs]
      exact .pair hk ih
    | some k =>
      obtain rfl := Coordinate.ofMarker?_eq_some_iff.mp hk
      have hs : cutAtMarker ('\\' :: k.marker :: cs) = (k.marker :: path, rest) := by
        simp [cutAtMarker_pair, hcut]
      rw [hs]
      exact .escaped k ih
  | case4 c rest hend hpair k hk =>
    obtain rfl := Coordinate.ofMarker?_eq_some_iff.mp hk
    rw [cutAtMarker_marker]
    exact .marker k rest
  | case5 c cs hend hpair hk path rest hcut ih =>
    rw [hcut] at ih
    have hc : c ≠ '\\' := by
      rintro rfl
      cases cs with
      | nil => exact hend rfl rfl
      | cons d ds => exact hpair d ds rfl rfl
    rw [cutAtMarker_plain hc hk, hcut]
    exact .plain hc hk ih

theorem Cut.cutAtMarker_eq {cs path : List Char} {found : Option (Coordinate × List Char)}
    (h : Cut cs path found) : cutAtMarker cs = (path, found) := by
  induction h with
  | nothing => rfl
  | backslash => rfl
  | escaped k rest ih => simp [cutAtMarker_pair, ih]
  | pair other rest ih => simp [cutAtMarker_pair, other, ih]
  | marker k rest => exact cutAtMarker_marker k rest
  | plain hc other rest ih => rw [cutAtMarker_plain hc other, ih]

/-- Nothing is lost and nothing is made up when a text is cut. -/
theorem Cut.text_eq {cs path : List Char} {found : Option (Coordinate × List Char)}
    (h : Cut cs path found) :
    cs = escapeMarkers path ++ found.elim [] fun (k, rest) => k.marker :: rest := by
  induction h with
  | nothing => rfl
  | backslash => rfl
  | escaped k rest ih => rw [escapeMarkers_marker, List.cons_append, List.cons_append, ← ih]
  | pair other rest ih =>
    rw [escapeMarkers_other (by decide), escapeMarkers_other other, List.cons_append,
      List.cons_append, ← ih]
  | marker k rest => rfl
  | plain hc other rest ih => rw [escapeMarkers_other other, List.cons_append, ← ih]

/-- A path expression is written with characters of the text only. -/
theorem Cut.path_sublist {cs path : List Char} {found : Option (Coordinate × List Char)}
    (h : Cut cs path found) : path.Sublist cs := by
  induction h with
  | nothing => exact .slnil
  | backslash => exact List.Sublist.refl _
  | escaped k rest ih => exact .cons _ (ih.cons_cons _)
  | pair other rest ih => exact (ih.cons_cons _).cons_cons _
  | marker k rest => exact List.nil_sublist _
  | plain hc other rest ih => exact ih.cons_cons _

/-- The text before a marker is read alike whatever stands after it. -/
theorem Cut.resume {cs path rest tail : List Char} {k : Coordinate}
    {found' : Option (Coordinate × List Char)} (h : Cut cs path (some (k, rest)))
    (ht : Cut tail [] found') : Cut (escapeMarkers path ++ tail) path found' := by
  generalize hf : some (k, rest) = found at h
  induction h with
  | nothing => cases hf
  | backslash => cases hf
  | escaped m _ ih =>
    rw [escapeMarkers_marker]
    exact .escaped m (ih hf)
  | pair other _ ih =>
    rw [escapeMarkers_other (by decide), escapeMarkers_other other]
    exact .pair other (ih hf)
  | marker _ _ =>
    -- the cut ends here, so the new text after it takes over
    exact ht
  | plain hc other _ ih =>
    rw [escapeMarkers_other other]
    exact .plain hc other (ih hf)

theorem Cut.replace {cs path rest : List Char} {k : Coordinate}
    (h : Cut cs path (some (k, rest))) (k' : Coordinate) (rest' : List Char) :
    Cut (escapeMarkers path ++ k'.marker :: rest') path (some (k', rest')) :=
  h.resume (.marker k' rest')

/-- The text before a marker holds none itself. -/
theorem Cut.unmarked {cs path rest : List Char} {k : Coordinate}
    (h : Cut cs path (some (k, rest))) : Cut (escapeMarkers path) path none := by
  have hr := h.resume .nothing
  rw [List.append_nil] at hr
  exact hr

theorem split_of_unmarked {cs path : List Char} (h : Cut cs path none) :
    split (String.ofList cs) = ⟨String.ofList path, none, ""⟩ := by
  rw [split, String.toList_ofList, h.cutAtMarker_eq]

theorem split_of_marked {cs path rest : List Char} {k : Coordinate}
    (h : Cut cs path (some (k, rest))) : split (String.ofList cs) =
      ⟨String.ofList path, some (k, String.ofList (rest.takeWhile fun c => !Text.isBlank c)),
        String.ofList (Text.trim (rest.dropWhile fun c => !Text.isBlank c))⟩ := by
  rw [split, String.toList_ofList, h.cutAtMarker_eq]

theorem path_split_sublist (text : String) : (split text).path.toList.Sublist text.toList := by
  have hcut := cut_cutAtMarker text.toList
  have hpath : (split text).path = String.ofList (cutAtMarker text.toList).1 := by
    unfold split
    split <;> next hc => rw [hc]
  rw [hpath, String.toList_ofList]
  exact hcut.path_sublist

theorem exists_cut_of_split {text body : String} {k : Coordinate}
    (h : (split text).selector = some (k, body)) :
    ∃ rest, Cut text.toList (split text).path.toList (some (k, rest)) ∧
      body = String.ofList (rest.takeWhile fun c => !Text.isBlank c) := by
  have hcut := cut_cutAtMarker text.toList
  generalize (cutAtMarker text.toList).1 = path at hcut
  generalize (cutAtMarker text.toList).2 = found at hcut
  rw [← String.ofList_toList (s := text)] at h
  cases found with
  | none =>
    rw [split_of_unmarked hcut] at h
    cases h
  | some marked =>
    obtain ⟨m, rest⟩ := marked
    have hs := split_of_marked hcut
    rw [hs] at h
    rw [String.ofList_toList] at hs
    cases h
    refine ⟨rest, ?_, rfl⟩
    rw [hs, String.toList_ofList]
    exact hcut

end Pattern

end PointSelect
