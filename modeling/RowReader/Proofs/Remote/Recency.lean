import Mathlib.Data.List.Dedup
import Mathlib.Data.List.DropRight
import RowReader.Proofs.Remote.RangeFile

/-!
# What a cache of ranges recalls

`recent capacity ranges` is what a history of used ranges leaves in a cache: each range once, at the
place of its last use, and of these the ones used last.  A history only ever grows at its end, and a
cache keeps up with it without seeing more of it than it holds.  For that a range used again must
move to the end, a new one may push out only the range used longest ago, and nothing that has been
pushed out can come back but by being used.
-/

namespace RowReader

/-- The different ranges among those used, as many as the capacity allows.  The ones used last are
kept, and the one used longest ago comes first. -/
def recent (capacity : Nat) (ranges : List ByteRange) : List ByteRange :=
  ranges.dedup.rtake capacity

variable {capacity : Nat} {ranges : List ByteRange} {range : ByteRange}

theorem length_recent (capacity : Nat) (ranges : List ByteRange) :
    (recent capacity ranges).length = min capacity ranges.dedup.length := by
  rw [recent, List.rtake, List.length_drop]
  omega

theorem nodup_recent (capacity : Nat) (ranges : List ByteRange) : (recent capacity ranges).Nodup :=
  (List.nodup_dedup ranges).sublist (List.drop_sublist _ _)

/-! ## One more use -/

/-- The last use of a range is the only one that counts. -/
theorem dedup_concat (ranges : List ByteRange) (range : ByteRange) :
    (ranges ++ [range]).dedup = ranges.dedup.filter (· != range) ++ [range] := by
  induction ranges with
  | nil => rfl
  | cons first rest ih =>
    rw [List.cons_append]
    by_cases later : first ∈ rest
    · rw [List.dedup_cons_of_mem (List.mem_append_left _ later), List.dedup_cons_of_mem later, ih]
    · rw [List.dedup_cons_of_notMem later]
      by_cases same : first = range
      · subst same
        rw [List.dedup_cons_of_mem (List.mem_append_right _ (List.mem_singleton_self _)), ih,
          List.filter_cons_of_neg (by simp)]
      · have new : first ∉ rest ++ [range] := by simp [later, same]
        rw [List.dedup_cons_of_notMem new, ih, List.filter_cons_of_pos (by simpa using same),
          List.cons_append]

/-- Leaving one range out of a list without repetitions makes it shorter by one at most. -/
theorem length_le_filter_ne (once : ranges.Nodup) (range : ByteRange) :
    ranges.length ≤ (ranges.filter (· != range)).length + 1 := by
  rw [← once.erase_eq_filter, List.length_erase]
  split <;> omega

theorem rtake_of_length_le (all : ranges.length ≤ capacity) : ranges.rtake capacity = ranges := by
  rw [List.rtake, Nat.sub_eq_zero_of_le all, List.drop_zero]

theorem rtake_append_of_le {front back : List ByteRange} (enough : capacity ≤ back.length) :
    (front ++ back).rtake capacity = back.rtake capacity := by
  simp only [List.rtake]
  rw [List.drop_append, List.drop_of_length_le (by rw [List.length_append]; omega),
    List.nil_append, List.length_append]
  congr 1
  omega

/-- Of a list without repetitions, the last `n` ranges other than a given one are among the last
`n + 1`. -/
theorem rtake_filter_ne (once : ranges.Nodup) (range : ByteRange) (n : Nat) :
    (ranges.filter (· != range)).rtake n =
      ((ranges.rtake (n + 1)).filter (· != range)).rtake n := by
  by_cases all : ranges.length ≤ n + 1
  · rw [rtake_of_length_le all]
  · have back : (ranges.rtake (n + 1)).Nodup := once.sublist (List.drop_sublist _ _)
    have kept := length_le_filter_ne back range
    have enough : n ≤ ((ranges.rtake (n + 1)).filter (· != range)).length := by
      simp only [List.rtake, List.length_drop] at kept ⊢
      omega
    conv_lhs => rw [← List.take_append_drop (ranges.length - (n + 1)) ranges, List.filter_append]
    exact rtake_append_of_le enough

/-- What was pushed out of the cache does not matter for what is in it after one more use. -/
theorem recent_concat (capacity : Nat) (ranges : List ByteRange) (range : ByteRange) :
    recent capacity (ranges ++ [range]) =
      ((recent capacity ranges).filter (· != range) ++ [range]).rtake capacity := by
  rw [recent, dedup_concat, recent]
  cases capacity with
  | zero => rw [List.rtake_zero, List.rtake_zero]
  | succ n =>
    rw [List.rtake_concat_succ, List.rtake_concat_succ]
    rw [rtake_filter_ne (List.nodup_dedup ranges)]

example : recent 2 [⟨0, 1⟩, ⟨1, 2⟩, ⟨0, 1⟩, ⟨4, 5⟩] = [⟨0, 1⟩, ⟨4, 5⟩] := by decide

/-! ## The cache -/

namespace RangeCache

variable {c : RangeCache} {data : List UInt8} {reads : List (ByteRange × List UInt8)}

theorem ranges_put (c : RangeCache) (range : ByteRange) (data : List UInt8) :
    (c.put range data).ranges = c.ranges.filter (· != range) ++ [range] := by
  simp only [ranges, put, List.map_append, List.map_cons, List.map_nil, List.filter_map]
  rfl

theorem ranges_trim (capacity : Nat) (c : RangeCache) :
    (c.trim capacity).ranges = c.ranges.rtake capacity := by
  simp only [ranges, trim, size, List.rtake, List.map_drop, List.length_map, Int.toNat_natCast]

theorem find?_eq_none_iff : c.find? range = none ↔ range ∉ c.ranges := by
  rw [find?, Option.map_eq_none_iff, List.find?_eq_none, ranges, List.mem_map]
  constructor
  · rintro missing ⟨entry, member, rfl⟩
    exact missing entry member (beq_self_eq_true _)
  · intro missing entry member same
    exact missing ⟨entry, member, eq_of_beq same⟩

theorem mem_ranges_of_find? (found : c.find? range = some data) : range ∈ c.ranges :=
  List.mem_map_of_mem (mem_of_find? found)

theorem lookup_concat (reads : List (ByteRange × List UInt8)) (range other : ByteRange)
    (data : List UInt8) :
    (reads ++ [(range, data)]).reverse.lookup other =
      if other = range then some data else reads.reverse.lookup other := by
  rw [List.reverse_append, List.reverse_singleton, List.singleton_append, List.lookup_cons]
  by_cases same : other = range
  · rw [beq_iff_eq.mpr same, if_pos same]
  · rw [beq_eq_false_iff_ne.mpr same, if_neg same]

/-- The cache holds what a history of reads leaves in it: of the ranges that were read the recent
ones, each with the bytes that the last read of it brought. -/
structure Recalls (capacity : Nat) (reads : List (ByteRange × List UInt8)) (c : RangeCache) :
    Prop where
  ranges_eq : c.ranges = recent capacity (reads.map Prod.fst)
  latest : ∀ entry ∈ c.entries, reads.reverse.lookup entry.1 = some entry.2

namespace Recalls

theorem empty (capacity : Nat) : Recalls capacity [] {} where
  ranges_eq := by rw [recent, List.map_nil, List.dedup_nil, List.rtake_nil]; rfl
  latest := fun _ member => absurd member List.not_mem_nil

theorem size_eq (recalls : c.Recalls capacity reads) :
    c.size = min capacity (reads.map Prod.fst).dedup.length := by
  rw [← length_recent, ← recalls.ranges_eq, ranges, List.length_map, size]

theorem find?_eq (recalls : c.Recalls capacity reads) (range : ByteRange) :
    c.find? range =
      if range ∈ recent capacity (reads.map Prod.fst) then reads.reverse.lookup range
      else none := by
  rw [← recalls.ranges_eq]
  split
  · next kept =>
    have found : c.find? range ≠ none := fun missing => find?_eq_none_iff.mp missing kept
    rcases Option.ne_none_iff_exists'.mp found with ⟨data, found⟩
    rw [found, recalls.latest _ (mem_of_find? found)]
  · next other => exact find?_eq_none_iff.mpr other

theorem latest_put (recalls : c.Recalls capacity reads) (range : ByteRange) (data : List UInt8) :
    ∀ entry ∈ (c.put range data).entries,
      (reads ++ [(range, data)]).reverse.lookup entry.1 = some entry.2 := by
  intro entry member
  rw [lookup_concat]
  rcases of_mem_put member with ⟨old, other⟩ | rfl
  · rw [if_neg other]
    exact recalls.latest entry old
  · exact if_pos rfl

/-- One more read, of whatever range. -/
theorem trim_put (recalls : c.Recalls capacity reads) (range : ByteRange) (data : List UInt8) :
    ((c.put range data).trim capacity).Recalls capacity (reads ++ [(range, data)]) where
  ranges_eq := by
    rw [ranges_trim, ranges_put, recalls.ranges_eq, List.map_append, List.map_singleton,
      recent_concat]
  latest := fun entry member => recalls.latest_put range data entry (of_mem_trim member)

/-- A range that the cache holds pushes out no other. -/
theorem put (recalls : c.Recalls capacity reads) {range : ByteRange} (kept : range ∈ c.ranges)
    (data : List UInt8) : (c.put range data).Recalls capacity (reads ++ [(range, data)]) where
  ranges_eq := by
    have bound := length_recent capacity (reads.map Prod.fst)
    have once := nodup_recent capacity (reads.map Prod.fst)
    rw [← recalls.ranges_eq] at bound once
    have room : (c.ranges.filter (· != range) ++ [range]).length ≤ capacity := by
      have some_kept := List.length_pos_of_mem kept
      rw [← once.erase_eq_filter, List.length_append, List.length_erase_of_mem kept,
        List.length_singleton]
      omega
    rw [ranges_put, List.map_append, List.map_singleton, recent_concat, ← recalls.ranges_eq,
      rtake_of_length_le room]
  latest := recalls.latest_put range data

end Recalls
end RangeCache
end RowReader
