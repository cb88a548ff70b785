import Mathlib.Algebra.GroupWithZero.Nat
import Mathlib.Data.List.Forall2
import SchemaBindings.Pattern.Size

/-!
# How much room a pattern takes at most

How much room a set takes depends on which of its states are shared, and that depends on
a table of hashes. An upper bound does not: every state that is still growing is paid for
when it begins to grow, and each of its transitions when it is opened, so that settling it
costs nothing more, whether it is shared or not. What is left are the ranges of the byte
sequences, of which a set has a number that is bounded by the number of its ranges.

The bound is good enough for the classes of characters that the library knows, of which
none has more than a thousand ranges.
-/
namespace SchemaBindings.Pattern

open SchemaBindings.Unicode

/-- States and what is beside them take their place in addition to what has been taken before. -/
@[simp] theorem Room.bytes_add (room : Room) (states beside : Nat) :
    (room.add states beside).bytes = room.bytes + (stateSize * states + beside) := by
  simp only [bytes, add, Nat.mul_add]
  omega

/-- Room within the limit is not refused. -/
theorem Room.checked_of_le {room : Room} (within : room.bytes ≤ sizeLimit) :
    room.checked = some room := if_pos within

/-- A state is shared or takes its own room. -/
theorem Shared.bytes_state_le {κ : Type} [DecidableEq κ] (shared : Shared κ) (key : κ)
    (place : UInt64) (beside : Nat) :
    (shared.state key place beside).2.room.bytes ≤ shared.room.bytes + (stateSize + beside) := by
  unfold state
  extract_lets fresh
  have taken : fresh.2.room.bytes = shared.room.bytes + (stateSize + beside) := by
    simp [fresh]
  split
  · split
    · exact Nat.le_add_right _ _
    · exact Nat.le_of_eq taken
  · exact Nat.le_of_eq taken

/-! ## Sets read forward -/

/-- What settling a growing state will cost at most. -/
def Growing.price (growing : Growing) : Nat :=
  stateSize + transitionSize * (growing.transitions.length + growing.outgoing.toList.length)

/-- What settling several growing states will cost at most. -/
def totalPrice (growing : List Growing) : Nat := (growing.map Growing.price).sum

/-- The room that has been taken and what the growing states will cost. -/
def spent (growing : List Growing) (shared : Shared (List Transition)) : Nat :=
  shared.room.bytes + totalPrice growing

/-- Closing a transition costs nothing, it was paid for when it was opened. -/
theorem Growing.price_close (growing : Growing) (next : Nat) :
    (growing.close next).price = growing.price := by
  obtain ⟨transitions, outgoing⟩ := growing
  cases outgoing <;> simp [close, price]

/-- Settling a state takes the room that was paid for. -/
theorem Growing.bytes_settle_le (growing : Growing) (next : Nat)
    (shared : Shared (List Transition)) :
    (growing.settle next shared).2.room.bytes ≤ shared.room.bytes + growing.price := by
  have closed : stateSize + transitionSize * (growing.close next).transitions.reverse.length ≤
      growing.price := by
    rw [List.length_reverse, ← growing.price_close next, price]
    exact Nat.add_le_add_left (Nat.mul_le_mul_left _ (Nat.le_add_right _ _)) _
  have settled := shared.bytes_state_le (growing.close next).transitions.reverse
    (transitionsPlace (growing.close next).transitions.reverse)
    (transitionSize * (growing.close next).transitions.reverse.length)
  exact Nat.le_trans settled (Nat.add_le_add_left closed _)

/-- Settling all states takes the room that was paid for. -/
theorem bytes_settleAll_le (stop : Nat) (growing : List Growing)
    (shared : Shared (List Transition)) :
    (settleAll stop growing shared).2.room.bytes ≤ spent growing shared := by
  induction growing with
  | nil => exact Nat.le_refl _
  | cons first others inductionHypothesis =>
    have settled := first.bytes_settle_le (settleAll stop others shared).1
      (settleAll stop others shared).2
    change (first.settle (settleAll stop others shared).1
      (settleAll stop others shared).2).2.room.bytes ≤ _
    simp only [spent, totalPrice, List.map_cons, List.sum_cons] at inductionHypothesis ⊢
    omega

/-- Settling the states after some that are kept costs nothing more. -/
theorem spent_settleAfter_le (stop keep : Nat) (growing : List Growing)
    (shared : Shared (List Transition)) :
    spent (settleAfter stop keep growing shared).1 (settleAfter stop keep growing shared).2 ≤
      spent growing shared := by
  induction growing generalizing keep with
  | nil => cases keep <;> exact Nat.le_refl _
  | cons first others inductionHypothesis =>
    cases keep with
    | zero =>
      have settled := bytes_settleAll_le stop others shared
      simp only [settleAfter, spent, totalPrice, List.map_cons, List.map_nil, List.sum_cons,
        List.sum_nil, Growing.price_close] at settled ⊢
      omega
    | succ keep =>
      have settled := inductionHypothesis keep
      simp only [settleAfter, spent, totalPrice, List.map_cons, List.sum_cons] at settled ⊢
      omega

/-- What one range of a byte sequence costs at most. -/
def rangePrice : Nat := stateSize + transitionSize

/-- Opening transitions for a sequence costs a state and a transition for each of its ranges. -/
theorem totalPrice_openAll_le (sequence : List ByteRange) (growing : List Growing) :
    totalPrice (openAll sequence growing) ≤ totalPrice growing + rangePrice * sequence.length := by
  induction growing using openAll.induct with
  | case1 => exact Nat.zero_le _
  | case2 last =>
    have opened (bytes : ByteRange) : (⟨[], some bytes⟩ : Growing).price = rangePrice := rfl
    have others (sequence : List ByteRange) : totalPrice (sequence.map fun bytes =>
        (⟨[], some bytes⟩ : Growing)) = rangePrice * sequence.length := by
      simp [totalPrice, Function.comp_def, opened, List.map_const', Nat.mul_comm]
    cases sequence with
    | nil =>
      have fewer : transitionSize * last.transitions.length ≤
          transitionSize * (last.transitions.length + last.outgoing.toList.length) :=
        Nat.mul_le_mul_left _ (Nat.le_add_right _ _)
      simpa [openAll, totalPrice, Growing.price] using fewer
    | cons first sequence =>
      have rest := others sequence
      simp only [totalPrice] at rest
      simp only [openAll, totalPrice, List.map_cons, List.sum_cons, List.drop_succ_cons,
        List.drop_zero, rest, List.length_cons, List.head?_cons, List.map_nil, List.sum_nil]
      simp only [Growing.price, rangePrice, stateSize, transitionSize, Option.toList_some,
        List.length_singleton]
      omega
  | case3 first others some inductionHypothesis =>
    simp only [openAll, totalPrice, List.map_cons, List.sum_cons] at inductionHypothesis ⊢
    omega

/-- Adding a byte sequence costs no more than its ranges. -/
theorem spent_addSequence_le (stop : Nat) (growing : List Growing)
    (shared : Shared (List Transition)) (sequence : List ByteRange) :
    spent (addSequence stop growing shared sequence).1 (addSequence stop growing shared sequence).2 ≤
      spent growing shared + rangePrice * sequence.length := by
  let common := agreement sequence growing
  have settled := spent_settleAfter_le stop common growing shared
  have opened := totalPrice_openAll_le (sequence.drop common)
    (settleAfter stop common growing shared).1
  have shorter : rangePrice * (sequence.drop common).length ≤ rangePrice * sequence.length :=
    Nat.mul_le_mul_left _ (by simp)
  change (settleAfter stop common growing shared).2.room.bytes +
    totalPrice (openAll (sequence.drop common) (settleAfter stop common growing shared).1) ≤ _
  simp only [spent] at settled ⊢
  omega

/-- The number of ranges in several byte sequences. -/
def rangeCount (sequences : List (List ByteRange)) : Nat := (sequences.map List.length).sum

/-- A set that is read forward takes a state before and after it, and what the ranges of its byte
sequences cost. -/
theorem bytes_layForward_le (sequences : List (List ByteRange)) (room : Room) :
    (layForward sequences room).bytes ≤
      room.bytes + 2 * stateSize + rangePrice * rangeCount sequences := by
  let add (state : List Growing × Shared (List Transition)) (sequence : List ByteRange) :=
    addSequence room.states state.1 state.2 sequence
  have run (state : List Growing × Shared (List Transition)) :
      spent (sequences.foldl add state).1 (sequences.foldl add state).2 ≤
        spent state.1 state.2 + rangePrice * rangeCount sequences := by
    induction sequences generalizing state with
    | nil => exact Nat.le_refl _
    | cons sequence others inductionHypothesis =>
      have first : spent (add state sequence).1 (add state sequence).2 ≤ _ :=
        spent_addSequence_le room.states state.1 state.2 sequence
      have rest := inductionHypothesis (add state sequence)
      simp only [rangeCount, List.map_cons, List.sum_cons, Nat.mul_add, List.foldl_cons] at rest ⊢
      omega
  let begun : List Growing × Shared (List Transition) := ([⟨[], none⟩], ⟨room.add 1 0, {}⟩)
  have start : spent begun.1 begun.2 = room.bytes + 2 * stateSize := by
    simp [begun, spent, totalPrice, Growing.price]
    omega
  have filled := run begun
  rw [layForward]
  split
  case h_1 growing shared folded =>
    rw [show sequences.foldl add begun = (growing, shared) from folded] at filled
    have settled := spent_settleAfter_le room.states 0 growing shared
    split
    case h_1 kept after ended =>
      rw [ended] at settled
      split
      case h_1 =>
        simp only [spent] at settled filled start ⊢
        omega
      case h_2 root others =>
        have final := root.bytes_settle_le room.states after
        simp only [spent, totalPrice, List.map_cons, List.sum_cons] at settled filled start ⊢
        omega

/-! ## Sets read backward -/

/-- A set that is read backward takes two states, an alternative for every byte sequence, and a
state for each of their ranges. -/
theorem bytes_layBackward_le (sequences : List (List ByteRange)) (room : Room) :
    (layBackward sequences room).bytes ≤ room.bytes + 2 * stateSize +
      alternativeSize * sequences.length + stateSize * rangeCount sequences := by
  let add (state : Nat × Shared BackwardKey) (bytes : ByteRange) :=
    state.2.state (⟨state.1, bytes⟩ : BackwardKey) (BackwardKey.place ⟨state.1, bytes⟩) 0
  have one (sequence : List ByteRange) (state : Nat × Shared BackwardKey) :
      (sequence.foldl add state).2.room.bytes ≤
        state.2.room.bytes + stateSize * sequence.length := by
    induction sequence generalizing state with
    | nil => exact Nat.le_refl _
    | cons bytes sequence inductionHypothesis =>
      have first : (add state bytes).2.room.bytes ≤ _ :=
        state.2.bytes_state_le (⟨state.1, bytes⟩ : BackwardKey)
          (BackwardKey.place ⟨state.1, bytes⟩) 0
      have rest := inductionHypothesis (add state bytes)
      simp only [List.foldl_cons, List.length_cons, Nat.mul_add] at rest ⊢
      omega
  have all (shared : Shared BackwardKey) :
      (sequences.foldl (fun shared sequence =>
        (sequence.foldl add (room.states + 1, shared)).2) shared).room.bytes ≤
        shared.room.bytes + stateSize * rangeCount sequences := by
    induction sequences generalizing shared with
    | nil => exact Nat.le_refl _
    | cons sequence others inductionHypothesis =>
      have first : (sequence.foldl add (room.states + 1, shared)).2.room.bytes ≤
          shared.room.bytes + stateSize * sequence.length := one sequence _
      have rest := inductionHypothesis (sequence.foldl add (room.states + 1, shared)).2
      simp only [rangeCount, List.map_cons, List.sum_cons, Nat.mul_add, List.foldl_cons] at rest ⊢
      omega
  have laid := all ⟨room.add 2 (alternativeSize * sequences.length), {}⟩
  rw [Room.bytes_add] at laid
  change (sequences.foldl (fun shared sequence => (sequence.foldl add (room.states + 1, shared)).2)
    (⟨room.add 2 (alternativeSize * sequences.length), {}⟩ : Shared BackwardKey)).room.bytes ≤ _
  omega

/-! ## The byte sequences of ranges -/

namespace CodeRange

/-- Cutting a range at blocks makes at most two parts more for each size of blocks. -/
theorem length_byBlocks_le (blocks : List Nat) (range : CodeRange) :
    (byBlocks blocks range).length ≤ 2 * blocks.length + 1 := by
  induction blocks generalizing range with
  | nil => exact Nat.le_refl _
  | cons block blocks inductionHypothesis =>
    rw [byBlocks]
    split
    case isTrue => simp
    case isFalse =>
      extract_lets start stop
      have head : (if range.first < start then [(⟨range.first, start - 1⟩ : CodeRange)]
          else []).length ≤ 1 := by
        split <;> simp
      have middle : (if start < stop then byBlocks blocks ⟨start, stop - 1⟩ else []).length ≤
          2 * blocks.length + 1 := by
        split
        · exact inductionHypothesis _
        · exact Nat.zero_le _
      have tail : (if stop ≤ range.last then [(⟨stop, range.last⟩ : CodeRange)]
          else []).length ≤ 1 := by
        split <;> simp
      simp only [List.length_append, List.length_cons]
      omega

end CodeRange

/-- Several lists of bounded length are together as long as their number allows. -/
theorem length_flatMap_le {α β : Type} {parts : α → List β} (bound : Nat) (values : List α)
    (bounded : ∀ value ∈ values, (parts value).length ≤ bound) :
    (values.flatMap parts).length ≤ bound * values.length := by
  induction values with
  | nil => exact Nat.zero_le _
  | cons value values inductionHypothesis =>
    obtain ⟨first, others⟩ := List.forall_mem_cons.mp bounded
    have rest := inductionHypothesis others
    rw [List.flatMap_cons, List.length_append, List.length_cons, Nat.mul_succ]
    omega

namespace CodeRange

/-- A range without the numbers that are kept for pairs is two ranges at most. -/
theorem length_withoutSurrogates_le (range : CodeRange) : range.withoutSurrogates.length ≤ 2 :=
  List.length_filter_le _ _

/-- Characters are written in one to four bytes, so a range falls into four parts at most. -/
theorem length_bySize_le (range : CodeRange) : range.bySize.length ≤ 4 :=
  List.length_filter_le _ _

/-- A character has at most four bytes. -/
theorem length_bytesAt_le (code : Nat) : (bytesAt code).length ≤ 4 := by
  rw [bytesAt, String.length_utf8EncodeChar]
  exact Char.utf8Size_le_four _

/-- A range has at most fifty-six byte sequences: seven for each of at most eight parts whose
characters take the same number of bytes. -/
theorem length_byteSequences_le (range : CodeRange) : range.byteSequences.length ≤ 56 := by
  have parts : (range.withoutSurrogates.flatMap bySize).length ≤ 8 :=
    Nat.le_trans (length_flatMap_le 4 _ fun part _ => part.length_bySize_le)
      (Nat.mul_le_mul_left 4 range.length_withoutSurrogates_le)
  refine Nat.le_trans (length_flatMap_le 7 _ fun part _ => ?_)
    (Nat.mul_le_mul_left 7 parts)
  split
  · simp
  · rw [List.length_map]
    exact length_byBlocks_le _ part

/-- No byte sequence has more than four ranges. -/
theorem length_le_of_mem_byteSequences {range : CodeRange} {sequence : List ByteRange}
    (member : sequence ∈ range.byteSequences) : sequence.length ≤ 4 := by
  rw [byteSequences, List.mem_flatMap] at member
  obtain ⟨part, _, member⟩ := member
  split at member
  · obtain rfl := List.mem_singleton.mp member
    simp
  · obtain ⟨block, _, rfl⟩ := List.mem_map.mp member
    rw [List.length_zipWith]
    exact Nat.le_trans (Nat.min_le_left _ _) (length_bytesAt_le _)

end CodeRange

/-- The ranges in all byte sequences of some ranges. -/
theorem rangeCount_le (ranges : List CodeRange) :
    rangeCount (ranges.flatMap CodeRange.byteSequences) ≤
      4 * (ranges.flatMap CodeRange.byteSequences).length := by
  have short : ∀ sequence ∈ ranges.flatMap CodeRange.byteSequences, sequence.length ≤ 4 := by
    intro sequence member
    obtain ⟨range, _, inside⟩ := List.mem_flatMap.mp member
    exact CodeRange.length_le_of_mem_byteSequences inside
  have counted := length_flatMap_le 4 (ranges.flatMap CodeRange.byteSequences) short
  rwa [List.length_flatMap] at counted

/-! ## Outlines -/

/-- What one range of a set costs at most: a transition if the set is one of ASCII characters, and
otherwise all of its byte sequences with an alternative for each. -/
def setPrice : Nat := transitionSize + 56 * (alternativeSize + 4 * rangePrice)

/-- A set takes two states and what its ranges cost, in either direction. -/
theorem bytes_laySet_le (backward : Bool) (ranges : List CodeRange) (room : Room) :
    (laySet backward ranges (ranges.flatMap CodeRange.byteSequences) room).bytes ≤
      room.bytes + (2 * stateSize + setPrice * ranges.length) := by
  have sequences := length_flatMap_le 56 ranges fun range _ => range.length_byteSequences_le
  have counted := rangeCount_le ranges
  rw [laySet]
  split
  · rw [Room.bytes_add]
    simp only [setPrice, Nat.add_mul]
    omega
  · have forward := bytes_layForward_le (ranges.flatMap CodeRange.byteSequences) room
    have reverse := bytes_layBackward_le (ranges.flatMap CodeRange.byteSequences) room
    simp only [setPrice, rangePrice, stateSize, transitionSize,
      alternativeSize] at forward reverse ⊢
    split <;> omega

/-- Whether laying out an outline succeeds wherever there is room for its price, and takes no more
than that. -/
def Outline.Costs (outline : Outline) (price : Nat) : Prop :=
  ∀ backward room, room.bytes + price ≤ sizeLimit →
    ∃ after, outline.lay backward room = some after ∧ after.bytes ≤ room.bytes + price

namespace Outline

/-- Room that is taken within a price is not refused. -/
theorem checked_within {room after : Room} {price : Nat} (enough : room.bytes + price ≤ sizeLimit)
    (taken : after.bytes ≤ room.bytes + price) :
    ∃ checked, after.checked = some checked ∧ checked.bytes ≤ room.bytes + price :=
  ⟨after, Room.checked_of_le (Nat.le_trans taken enough), taken⟩

/-- What costs no more than a price costs no more than a higher one. -/
theorem Costs.mono {outline : Outline} {price more : Nat} (costs : outline.Costs price)
    (atMost : price ≤ more) : outline.Costs more := by
  intro backward room enough
  obtain ⟨after, laid, within⟩ := costs backward room (by omega)
  exact ⟨after, laid, by omega⟩

/-- A text costs one state for each of its bytes. -/
theorem costs_literal (text : List Char) :
    (literal text).Costs (stateSize * (text.flatMap String.utf8EncodeChar).length) := by
  intro backward room enough
  have bytes : (literalBytes backward text).length =
      (text.flatMap String.utf8EncodeChar).length := by
    cases backward <;> simp [literalBytes]
  rw [lay]
  refine checked_within enough ?_
  rw [Room.bytes_add, bytes]
  exact Nat.le_refl _

/-- A set of characters costs no more than a price for each of its ranges, however far they reach.
-/
theorem costs_ofRanges (ranges : List CodeRange) :
    (ofRanges ranges).Costs (2 * stateSize + setPrice * ranges.length) := by
  have general : (set ranges (ranges.flatMap CodeRange.byteSequences)).Costs
      (2 * stateSize + setPrice * ranges.length) := by
    intro backward room enough
    rw [lay]
    exact checked_within enough (bytes_laySet_le backward ranges room)
  unfold ofRanges
  split
  case h_1 range =>
    split
    · refine (costs_literal _).mono ?_
      have bytes : (String.utf8EncodeChar (Char.ofNat range.first)).length ≤ 4 :=
        CodeRange.length_bytesAt_le range.first
      simp only [List.flatMap_singleton, stateSize, setPrice, rangePrice, transitionSize,
        alternativeSize, List.length_singleton]
      omega
    · exact general
  case h_2 => exact general

/-- A group takes two states when it is read forward. -/
theorem Costs.group {body : Outline} {price : Nat} (costs : body.Costs price) (index : Nat) :
    (Outline.group index body).Costs (2 * stateSize + price) := by
  intro backward room enough
  cases backward with
  | true =>
    obtain ⟨after, laid, within⟩ := costs true room (by omega)
    exact ⟨after, by simpa [lay] using laid, by omega⟩
  | false =>
    have added : (room.add 1 0).bytes = room.bytes + stateSize := by simp
    obtain ⟨after, laid, within⟩ := costs false (room.add 1 0) (by omega)
    have last : (after.add 1 0).bytes = after.bytes + stateSize := by simp
    obtain ⟨checked, held, bounded⟩ :=
      checked_within enough (Nat.le_trans (Nat.le_of_eq last) (by omega))
    refine ⟨checked, ?_, bounded⟩
    simp [lay, laid, held]

/-- A repetition without an upper limit that takes at least one round takes its rounds, and a state
that goes back. -/
theorem Costs.repetition {body : Outline} {price : Nat} (costs : body.Costs price) (least : Nat)
    (greedy : Bool) : (Outline.repetition (least + 1) none greedy body).Costs
      (price * (least + 1) + (stateSize + 2 * alternativeSize)) := by
  intro backward room enough
  have copies (count : Nat) (room : Room) (enough : room.bytes + price * count ≤ sizeLimit) :
      ∃ after, layCopies (body.lay backward) count room = some after ∧
        after.bytes ≤ room.bytes + price * count := by
    induction count generalizing room with
    | zero => exact ⟨room, rfl, Nat.le_refl _⟩
    | succ count inductionHypothesis =>
      rw [Nat.mul_succ] at enough
      obtain ⟨between, first, bounded⟩ := costs backward room (by omega)
      obtain ⟨after, laid, within⟩ := inductionHypothesis between (by omega)
      refine ⟨after, ?_, by rw [Nat.mul_succ]; omega⟩
      rw [layCopies, first]
      exact laid
  obtain ⟨after, laid, within⟩ := copies (least + 1) room (by omega)
  have last : (after.add 1 (2 * alternativeSize)).bytes =
      after.bytes + (stateSize + 2 * alternativeSize) := by simp
  obtain ⟨checked, held, bounded⟩ :=
    checked_within enough (Nat.le_trans (Nat.le_of_eq last) (by omega))
  refine ⟨checked, ?_, bounded⟩
  simp [lay, layRepetition, laid, held]

/-- Parts one after the other cost what each of them costs. -/
theorem costs_sequence {parts : List Outline} {prices : List Nat}
    (each : List.Forall₂ Costs parts prices) : (sequence parts).Costs prices.sum := by
  intro backward room enough
  rw [lay]
  induction each generalizing room with
  | nil => exact ⟨room, by cases backward <;> rfl, Nat.le_refl _⟩
  | @cons part price parts prices first others inductionHypothesis =>
    rw [List.sum_cons] at enough ⊢
    cases backward with
    | true =>
      obtain ⟨between, rest, bounded⟩ := inductionHypothesis room (by omega)
      obtain ⟨after, laid, within⟩ := first true between (by omega)
      exact ⟨after, by simp [layParts, rest, laid], by omega⟩
    | false =>
      obtain ⟨between, laid, bounded⟩ := first false room (by omega)
      obtain ⟨after, rest, within⟩ := inductionHypothesis between (by omega)
      exact ⟨after, by simp [layParts, rest, laid], by omega⟩

/-- What a whole pattern takes beside its outline at most. -/
def framePrice : Nat := 6 * stateSize + transitionSize + 2 * alternativeSize

/-- A pattern whose outline costs little enough can be laid out in both directions. -/
theorem Costs.layWhole {outline : Outline} {price : Nat} (costs : outline.Costs price)
    (little : framePrice + price ≤ sizeLimit) (backward : Bool) :
    (outline.layWhole backward).isSome = true := by
  unfold Outline.layWhole
  extract_lets fixed room noted
  have begun : room.bytes ≤ 3 * stateSize + transitionSize + 2 * alternativeSize := by
    simp only [room]
    split
    · simp only [Room.bytes, stateSize]
      omega
    · exact Nat.le_refl _
  have one : stateSize * noted ≤ stateSize := by
    simp only [noted]
    split <;> simp
  have added : (room.add noted 0).bytes = room.bytes + stateSize * noted := by simp
  simp only [framePrice] at little
  obtain ⟨after, laid, within⟩ := costs backward (room.add noted 0) (by omega)
  have last : (after.add (noted + 1) 0).bytes = after.bytes + (stateSize * noted + stateSize) := by
    simp [Nat.mul_succ]
  have checked := Room.checked_of_le (Nat.le_trans (Nat.le_of_eq last) (by omega))
  simp [laid, checked]

end Outline

/-- A shape is not too large if its outline costs little enough. -/
theorem Shape.not_isTooLarge {shape : Shape} {price : Nat} (costs : shape.outline.Costs price)
    (little : Outline.framePrice + price ≤ sizeLimit) : shape.isTooLarge = false := by
  have forward := costs.layWhole little false
  have reverse := costs.layWhole little true
  simp [isTooLarge, forward, reverse]

/-! ## Tables -/

/-- Two boundaries make a range. -/
theorem length_pairedRanges_le (boundaries : List Nat) :
    2 * (pairedRanges boundaries).length ≤ boundaries.length + 1 := by
  induction boundaries using pairedRanges.induct with
  | case1 first next boundaries inductionHypothesis =>
    simp only [pairedRanges, List.length_cons]
    omega
  | case2 => simp [pairedRanges]
  | case3 => simp [pairedRanges]

/-- There are as many sums as there are steps. -/
theorem length_accumulate (reached : Nat) (steps : List Nat) :
    (accumulate reached steps).length = steps.length := by
  induction steps generalizing reached with
  | nil => rfl
  | cons step steps inductionHypothesis => simp [accumulate, inductionHypothesis]

/-- A number takes a digit and what separates it from the next one. -/
theorem length_readSteps_le (characters : List Char) (pending : Option Nat) :
    2 * (readSteps characters pending).length ≤
      characters.length + 1 + pending.toList.length := by
  induction characters generalizing pending with
  | nil => cases pending <;> simp [readSteps]
  | cons character rest inductionHypothesis =>
    rw [readSteps]
    split
    · have later := inductionHypothesis none
      cases pending <;> simp at later ⊢ <;> omega
    · have later := inductionHypothesis (some (pending.getD 0 * 36 + digitValue character))
      cases pending <;> simp at later ⊢ <;> omega

/-- A table has at most a range for every four characters that it is written with. -/
theorem length_tableRanges_le {table : RangeTable} {steps : String}
    (written : table = .ofSteps steps) :
    4 * (tableRanges table).length ≤ steps.toList.length + 3 := by
  have boundaries := length_readSteps_le steps.toList none
  have ranges := length_pairedRanges_le table.boundaries.toList
  have same : table.boundaries.toList = accumulate 0 (readSteps steps.toList none) := by
    rw [written]
    rfl
  rw [same, length_accumulate] at ranges
  simp only [Option.toList_none, List.length_nil] at boundaries
  rw [tableRanges, same]
  omega

set_option maxRecDepth 20000 in
/-- The table of word characters is written with few characters. -/
theorem wordTable_short :
    ∃ steps, wordTable = .ofSteps steps ∧ steps.toList.length ≤ 3997 := by
  refine ⟨_, rfl, ?_⟩
  exact Nat.le_trans (Nat.le_of_eq (congrArg List.length String.toList_ofList))
    (by decide +kernel)

/-- So it has few ranges. -/
theorem length_tableRanges_wordTable_le : (tableRanges wordTable).length ≤ 1000 := by
  obtain ⟨steps, written, short⟩ := wordTable_short
  have ranges := length_tableRanges_le written
  omega

/-- A set of few ranges costs little. -/
theorem costs_of_few {ranges : List CodeRange} (few : ranges.length ≤ 1000) :
    (Outline.ofRanges ranges).Costs (2 * stateSize + setPrice * 1000) :=
  (Outline.costs_ofRanges ranges).mono
    (Nat.add_le_add_left (Nat.mul_le_mul_left setPrice few) _)

end SchemaBindings.Pattern
