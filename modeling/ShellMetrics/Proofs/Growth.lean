import ShellMetrics.Proofs.Reader

/-!
# Bodies only grow

What a reader makes of further lines depends on the body that is open, and what it has filed before
is left alone.  A run can therefore be made by a reader that has nothing but the open body, and its
bodies put behind those that were there.  Seen from outside, bodies only grow: names keep their
places, new names come behind them, and each line is put at the end of one body or of none.
-/

namespace ShellMetrics

namespace Ledger

variable {κ ι : Type} [DecidableEq κ]

/-- The keys of the first ledger come first in the second, and under each of them the second has
what the first has there, perhaps followed by more. -/
structure IsExtendedBy (first second : Ledger κ (List ι)) : Prop where
  keys_prefix : first.keys <+: second.keys
  find?_prefix : ∀ key items, first.find? key = some items →
    ∃ later, second.find? key = some later ∧ items <+: later

namespace IsExtendedBy

theorem trans {first second third : Ledger κ (List ι)} (hfirst : first.IsExtendedBy second)
    (hsecond : second.IsExtendedBy third) : first.IsExtendedBy third where
  keys_prefix := hfirst.keys_prefix.trans hsecond.keys_prefix
  find?_prefix := by
    intro key items hitems
    obtain ⟨more, hmore, hprefix⟩ := hfirst.find?_prefix key items hitems
    obtain ⟨most, hmost, hlonger⟩ := hsecond.find?_prefix key more hmore
    exact ⟨most, hmost, hprefix.trans hlonger⟩

instance : IsTrans (Ledger κ (List ι)) IsExtendedBy := ⟨fun _ _ _ ↦ trans⟩

end IsExtendedBy

theorem isExtendedBy_merge (first second : Ledger κ (List ι)) :
    first.IsExtendedBy (first.merge second) where
  keys_prefix := by
    rw [keys_merge]
    exact List.prefix_append _ _
  find?_prefix := by
    intro key items hitems
    have hentry := find?_eq_some_iff.1 hitems
    have hkey : key ∈ (first.merge second).keys := by
      rw [keys_merge]
      exact List.mem_append_left _ (mem_keys_iff.2 ⟨items, hentry⟩)
    refine ⟨items ++ second.itemsAt key, ?_, List.prefix_append _ _⟩
    rw [find?_eq_ite_itemsAt, if_pos hkey, itemsAt_merge, itemsAt_eq_of_mem_entries hentry]

end Ledger

namespace Reader

/-! ## One line -/

/-- A line goes to the end of one body, or to none if it opens one. -/
theorem bodies_feed_eq_or (reader : Reader) (line : Text) :
    (reader.feed line).bodies = reader.bodies ∨
      ∃ name, (reader.feed line).bodies = reader.bodies.push name line := by
  rw [bodies_feed]
  cases reader.owner? line with
  | none => exact .inl rfl
  | some name => exact .inr ⟨name, rfl⟩

/-- One line adds to a body or leaves all of them alone. -/
theorem isExtendedBy_feed (reader : Reader) (line : Text) :
    reader.bodies.IsExtendedBy (reader.feed line).bodies := by
  rw [bodies_feed, Ledger.pushAll_eq_merge]
  exact Ledger.isExtendedBy_merge _ _

/-! ## Whole runs -/

/-- Reading on never changes what has been kept, by induction on the lines. -/
theorem isExtendedBy_feedAll (reader : Reader) (lines : List Text) :
    reader.bodies.IsExtendedBy (reader.feedAll lines).bodies := by
  rw [bodies_feedAll_eq_merge]
  exact Ledger.isExtendedBy_merge _ _

/-- Along a run the bodies of every state extend those of the states before it. -/
theorem pairwise_isExtendedBy_trace (reader : Reader) (lines : List Text) :
    ((reader :: reader.trace lines).map Reader.bodies).Pairwise Ledger.IsExtendedBy := by
  rw [← List.isChain_iff_pairwise]
  induction lines generalizing reader with
  | nil => exact List.isChain_singleton _
  | cons line rest ih => exact List.IsChain.cons_cons (reader.isExtendedBy_feed line) (ih _)

/-- A run from any state leaves the same body open as a run from the same open body alone, and puts
the bodies of that run behind the ones that were there.  Hence bodies only grow: each state along
a run extends the states before it, so does a longer run, and a single line is put at the end of
one body at most. -/
theorem feedAll_eq_merge_fresh (reader : Reader) (lines : List Text) :
    let fresh := (Reader.mk ∅ reader.active).feedAll lines
    (reader.feedAll lines).active = fresh.active ∧
      (reader.feedAll lines).bodies.entries =
        reader.bodies.entries.map
            (fun entry ↦ (entry.1, entry.2 ++ fresh.bodies.itemsAt entry.1)) ++
          fresh.bodies.entries.filter (·.1 ∉ reader.bodies.keys) ∧
      (∀ more, (reader.feedAll lines).bodies.IsExtendedBy (reader.feedAll (lines ++ more)).bodies) ∧
      ((reader :: reader.trace lines).map Reader.bodies).Pairwise Ledger.IsExtendedBy ∧
      ∀ line, (reader.feed line).bodies = reader.bodies ∨
        ∃ name,
          (reader.feed line).bodies.find? name = some (reader.bodies.itemsAt name ++ [line]) ∧
          ∀ other, other ≠ name →
            (reader.feed line).bodies.find? other = reader.bodies.find? other := by
  intro fresh
  refine ⟨?_, ?_, ?_, reader.pairwise_isExtendedBy_trace lines, ?_⟩
  · apply active_feedAll_congr
    rfl
  · rw [bodies_feedAll_eq_merge, Ledger.entries_merge]
  · intro more
    rw [feedAll_append]
    exact isExtendedBy_feedAll _ more
  · intro line
    rcases reader.bodies_feed_eq_or line with hsame | ⟨name, hpush⟩
    · exact .inl hsame
    · refine .inr ⟨name, ?_, ?_⟩
      · rw [hpush, Ledger.find?_push, if_pos rfl]
      · intro other hother
        rw [hpush, Ledger.find?_push, if_neg hother]

end Reader

end ShellMetrics
