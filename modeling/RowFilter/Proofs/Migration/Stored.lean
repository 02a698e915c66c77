import RowFilter.Proofs.Migration.Convergence
import RowFilter.Proofs.Storage

/-! # Migrated filters can be stored

A migration renames tags and applies transforms. What every transform keeps, all of them keep, and
the transform from version 1 keeps that a clause can be told apart in storage: it builds lists of
texts and of members of objects, never null. So what was loaded and migrated is read as it was
written.
-/

namespace RowFilter

namespace Clause

variable {c : Clause}

theorem Storable.renamed (storable : c.Storable) : c.renamed.Storable := by
  unfold Clause.renamed
  split
  · exact { storable with }
  · exact storable

theorem settled_listItems (text : String) : (Json.array (listItems text)).Settled := by
  rw [Json.settled_array, listItems]
  intro v stands
  obtain ⟨piece, -, rfl⟩ := List.mem_map.mp stands
  trivial

theorem settled_of_member? {members : Row} {name : String} {v : Json}
    (settled : (Json.object members).Settled) (found : Json.member? members name = some v) :
    v.Settled := by
  obtain ⟨m, first, rfl⟩ := Option.map_eq_some_iff.mp found
  exact (Json.settled_object.mp settled).2 m (List.mem_of_find?_eq_some first)

/-- The transform from version 1 puts only lists in the place of operands. -/
theorem Storable.upgraded (storable : c.Storable) : c.upgraded.Storable := by
  have value : ∀ v ∈ c.upgradedValue, v ≠ .null ∧ v.Settled := by
    unfold upgradedValue
    split
    next text _ _ =>
      rintro v ⟨⟩
      exact ⟨Json.noConfusion, settled_listItems text⟩
    next text _ _ =>
      rintro v ⟨⟩
      exact ⟨Json.noConfusion, settled_listItems text⟩
    next range _ given =>
      split
      next low high hasLow hasHigh =>
        rintro v ⟨⟩
        have settled := (storable.value _ given).2
        refine ⟨Json.noConfusion, Json.settled_array.mpr ?_⟩
        rw [List.forall_mem_cons, List.forall_mem_singleton]
        exact ⟨settled_of_member? settled hasLow, settled_of_member? settled hasHigh⟩
      next => exact storable.value
    next => exact storable.value
  exact { storable with value }

end Clause

namespace Condition

theorem Storable.mapForest {f : Clause → Clause} {forest : List Condition}
    (storable : Storable forest) (keeps : ∀ c : Clause, c.Storable → (f c).Storable) :
    Storable (mapForest f forest) := by
  intro c stands
  rw [nodes_mapForest] at stands
  obtain ⟨d, inside, rfl⟩ := List.mem_map.mp stands
  rw [clause_mapClauses]
  exact keeps d.clause (storable d inside)

end Condition

namespace Migrator

/-- A migration without transforms but the one from version 1 gives storable filters. -/
theorem storable_bringUpToDate [PatternEngine] (registry : Option Registry) (logger : Logger)
    {d : Document} (storable : Condition.Storable d.conditions) (fields : Option Fields)
    (options : MigrationPolicy) (log : List SecurityEvent) :
    Condition.Storable
      (bringUpToDate { registry, logger } d fields options log).1.document.conditions := by
  rw [(bringUpToDate_report _ d fields options log).1]
  refine bringForward_keeps (fun t member forest output holds applied => ?_) _ _
    (storable.mapForest fun _ => Clause.Storable.renamed)
  obtain rfl := List.mem_singleton.mp member
  change upgradeFromVersion1 forest = .ok output at applied
  unfold upgradeFromVersion1 at applied
  split at applied
  · cases applied
  · cases applied
    exact holds.mapForest fun _ => Clause.Storable.upgraded

end Migrator

namespace Document

theorem storable_of_ofStored? {v : Json} {d : Document} (read : ofStored? v = some d) :
    Condition.Storable d.conditions := by
  unfold ofStored? at read
  split at read
  · cases read
  · split at read
    next document given =>
      cases read
      exact storable_of_ofJson? given
    next =>
      obtain ⟨forest, given, rfl⟩ := Option.map_eq_some_iff.mp read
      exact Condition.storable_of_listOfJson? given

/-- A storable document is loaded as it was written. -/
theorem ofStored?_toJson {d : Document} (storable : Condition.Storable d.conditions) :
    ofStored? d.toJson = some d := by
  have readable : d.toJson.isReadable = true := by
    have conditions := Condition.isReadable_listToJson storable
    simp [toJson, Json.isReadable, Json.membersReadable, Json.ofUInt32, conditions]
  rw [ofStored?, if_neg (by simp [readable]), ofJson?_toJson storable]

end Document

end RowFilter
