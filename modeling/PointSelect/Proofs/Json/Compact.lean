import PointSelect.Proofs.Json.Document

namespace PointSelect.Json.Document

/-- Parts between two brackets on one line. -/
theorem wire_enclosed {left right : Char} (hl : left.toNat < 0x80) (hr : right.toNat < 0x80)
    (parts : List (List Char)) : wire (left :: joinWith [','] parts ++ [right]) =
      left :: [] ++ joinWith (',' :: []) (parts.map wire) ++ [] ++ [right] := by
  have hcomma : wire [','] = [','] := wire_ascii (by decide)
  rw [wire_append, wire_cons_ascii hl, wire_joinWith, wire_ascii hr, hcomma]
  simp

theorem blank_nil : Blank [] := rfl

mutual

/-- A document that is written without blanks is read back. -/
theorem readsAs_compact : ∀ {d : Document} {v : Value}, d.Means v → ReadsAs (wire d.compact) v
  | atom _, _, h => h
  | array items, _, h => by
    obtain ⟨vs, rfl, hvs⟩ := h
    rw [compact, wire_enclosed (by decide) (by decide)]
    exact readsAs_array blank_nil blank_nil (readsAs_compactItems hvs)
  | object members, _, h => by
    obtain ⟨ms, rfl, hms⟩ := h
    rw [compact, wire_enclosed (by decide) (by decide)]
    exact readsAs_object blank_nil blank_nil (readsAs_compactMembers hms)

theorem readsAs_compactItems : ∀ {items : List Document} {vs : List Value}, MeansItems items vs →
    List.Forall₂ ReadsAs ((compactItems items).map wire) vs
  | [], _, h => by
    subst h
    exact .nil
  | d :: ds, _, h => by
    obtain ⟨w, ws, rfl, hd, hds⟩ := h
    rw [compactItems, List.map_cons]
    exact .cons (readsAs_compact hd) (readsAs_compactItems hds)

theorem readsAs_compactMembers : ∀ {members : List (String × Document)}
    {ms : List (Written × Value)}, MeansMembers members ms →
    List.Forall₂ MemberReadsAs ((compactMembers members).map wire) ms
  | [], _, h => by
    subst h
    exact .nil
  | (key, d) :: ds, _, h => by
    obtain ⟨w, v, ws, rfl, hkey, hd, hds⟩ := h
    have hm := @memberReadsAs key w v [] d.compact hkey blank_nil (readsAs_compact hd)
    rw [compactMembers, List.map_cons]
    exact .cons hm (readsAs_compactMembers hds)

end

theorem readText?_writeCompact {d : Document} {v : Value} (h : d.Means v) :
    readText? d.writeCompact = some v := by
  have hread := (readsAs_compact h).read?_append blank_nil
  rw [List.append_nil] at hread
  rw [readText?, Text.Utf8.encodeString, writeCompact, String.toList_ofList]
  exact hread

end PointSelect.Json.Document
