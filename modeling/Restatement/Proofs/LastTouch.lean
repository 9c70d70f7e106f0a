import Mathlib.Data.List.Dedup
import Mathlib.Data.List.DropRight
import Restatement.Proofs.Remembered

/-!
A bounded store against everything that was ever asked of it: its keys are the last ones touched,
in the order of their last touch, and its values are the last ones written.
-/

namespace Restatement

namespace Recency

inductive Operation (κ ν : Type) where
  | get (key : κ)
  | set (key : κ) (value : ν)
  | has (key : κ)
  | delete (key : κ)
  | clear
  deriving DecidableEq

namespace Operation

variable {κ ν : Type} [DecidableEq κ]

def isGet : Operation κ ν → Bool
  | .get _ => true
  | _ => false

def isClear : Operation κ ν → Bool
  | .clear => true
  | _ => false

def removes : Operation κ ν → Bool
  | .delete _ | .clear => true
  | _ => false

def written? (key : κ) : Operation κ ν → Option ν
  | .set other value => if other = key then some value else none
  | _ => none

end Operation

variable {κ ν : Type} [DecidableEq κ]

def perform (store : Recency κ ν) : Operation κ ν → Recency κ ν
  | .get key => (store.get key).2
  | .set key value => (store.insert key value).2
  | .has _ => store
  | .delete key => store.erase key
  | .clear => store.clear

def performAll (store : Recency κ ν) (operations : List (Operation κ ν)) : Recency κ ν :=
  operations.foldl perform store

def latest? (operations : List (Operation κ ν)) (key : κ) : Option ν :=
  operations.reverse.findSome? (·.written? key)

def reads (operations : List (Operation κ ν)) : Nat :=
  (operations.rtakeWhile fun operation => !operation.isClear).countP Operation.isGet

def touched? (store : Recency κ ν) : Operation κ ν → Option κ
  | .get key => if store.contains key then some key else none
  | .set key _ => some key
  | _ => none

def touches (store : Recency κ ν) : List (Operation κ ν) → List κ
  | [] => []
  | operation :: rest =>
      (store.touched? operation).toList ++ (store.perform operation).touches rest

/-- The entries after a touch: the touched one stands last, and of the others as many of the latest
stay as there is room for. -/
def placed (store : Recency κ ν) (key : κ) (value : ν) : List (κ × ν) :=
  (store.others key ++ [(key, value)]).rtake store.capacity

end Recency

theorem rtake_of_length_le {α : Type} (n : Nat) (items : List α) (short : items.length ≤ n) :
    items.rtake n = items := by
  rw [List.rtake, Nat.sub_eq_zero_of_le short, List.drop_zero]

theorem rtake_append_of_le_length {α : Type} (n : Nat) (first second : List α)
    (long : n ≤ second.length) : (first ++ second).rtake n = second.rtake n := by
  have skip : (first ++ second).length - n = first.length + (second.length - n) := by
    rw [List.length_append]
    omega
  rw [List.rtake, skip, List.drop_length_add_append, List.rtake]

theorem rtake_sublist {α : Type} (n : Nat) (items : List α) : (items.rtake n).Sublist items :=
  List.drop_sublist _ items

theorem length_rtake {α : Type} (n : Nat) (items : List α) :
    (items.rtake n).length = min n items.length := by
  rw [List.rtake, List.length_drop]
  omega

namespace Recency

variable {κ ν : Type} [DecidableEq κ]

theorem contains_iff (store : Recency κ ν) (key : κ) :
    store.contains key = true ↔ key ∈ store.keys := by
  simp only [contains, find?, keys, List.mem_map, Option.isSome_iff_exists]
  constructor
  · rintro ⟨value, found⟩
    obtain ⟨before, after, split, _⟩ := List.lookup_eq_some_iff.mp found
    refine ⟨(key, value), ?_, rfl⟩
    rw [split]
    exact List.mem_append_right before List.mem_cons_self
  · rintro ⟨entry, member, rfl⟩
    cases found : store.entries.lookup entry.1 with
    | some value => exact ⟨value, rfl⟩
    | none =>
        have absent := List.lookup_eq_none_iff.mp found entry member
        simp at absent

theorem keys_others (store : Recency κ ν) (key : κ) :
    (store.others key).map (·.1) = store.keys.filter (· ≠ key) := by
  rw [others, keys, List.filter_map]
  rfl

theorem others_of_absent (store : Recency κ ν) (key : κ) (absent : store.contains key = false) :
    store.others key = store.entries := by
  apply List.filter_eq_self.mpr
  intro entry member
  apply decide_eq_true
  rintro rfl
  have present : entry.1 ∈ store.keys := List.mem_map.mpr ⟨entry, member, rfl⟩
  rw [(store.contains_iff entry.1).mpr present] at absent
  cases absent

theorem length_others_of_present (store : Recency κ ν) (key : κ)
    (present : store.contains key = true) : (store.others key).length < store.size := by
  obtain ⟨entry, member, same⟩ := List.mem_map.mp ((store.contains_iff key).mp present)
  apply List.length_filter_lt_length_iff_exists.mpr
  exact ⟨entry, member, by simp [same]⟩

theorem insert_eq (store : Recency κ ν) (fits : store.size ≤ store.capacity) (key : κ)
    (value : ν) :
    (store.insert key value).2 = { store with entries := store.placed key value } := by
  have added : (store.entries ++ [(key, value)]).length = store.size + 1 := List.length_append
  unfold insert placed
  cases present : store.contains key with
  | true =>
      have fewer := store.length_others_of_present key present
      rw [rtake_of_length_le]
      · rfl
      · rw [List.length_append, List.length_singleton]
        omega
  | false =>
      rw [store.others_of_absent key present]
      by_cases full : store.capacity.val ≤ store.size
      · have room := store.capacity.property
        have skip : (store.entries ++ [(key, value)]).length - store.capacity.val = 1 := by omega
        have nonempty : store.entries ≠ [] := List.ne_nil_of_length_pos (room.trans_le full)
        simp only [Bool.false_eq_true, if_false, if_pos full, List.rtake, skip, List.drop_one]
        rw [List.tail_append_of_ne_nil nonempty]
      · rw [rtake_of_length_le _ _ (by omega)]
        simp only [Bool.false_eq_true, if_false, if_neg full]

theorem get_eq (store : Recency κ ν) (fits : store.size ≤ store.capacity) (key : κ) (value : ν)
    (found : store.find? key = some value) :
    (store.get key).2 =
      { store with entries := store.placed key value, hits := store.hits + 1 } := by
  have present : store.contains key = true := by rw [contains, found]; rfl
  have fewer := store.length_others_of_present key present
  rw [get, found, placed, rtake_of_length_le]
  rw [List.length_append, List.length_singleton]
  omega

theorem perform_capacity (store : Recency κ ν) (operation : Operation κ ν) :
    (store.perform operation).capacity = store.capacity := by
  cases operation with
  | get key =>
      simp only [perform, get]
      split <;> rfl
  | set key value =>
      simp only [perform, insert]
      split
      · rfl
      · split <;> rfl
  | has key => rfl
  | delete key => rfl
  | clear => rfl

theorem performAll_concat (store : Recency κ ν) (history : List (Operation κ ν))
    (operation : Operation κ ν) :
    store.performAll (history ++ [operation]) = (store.performAll history).perform operation :=
  List.foldl_concat ..

theorem performAll_capacity (store : Recency κ ν) (operations : List (Operation κ ν)) :
    (store.performAll operations).capacity = store.capacity := by
  induction operations using List.reverseRecOn with
  | nil => rfl
  | append_singleton history operation ih => rw [performAll_concat, perform_capacity, ih]

theorem latest_concat (history : List (Operation κ ν)) (operation : Operation κ ν) (key : κ) :
    latest? (history ++ [operation]) key = (operation.written? key).or (latest? history key) := by
  simp only [latest?, List.reverse_append, List.reverse_singleton, List.singleton_append,
    List.findSome?_cons]
  cases operation.written? key <;> rfl

omit [DecidableEq κ] in
theorem reads_concat (history : List (Operation κ ν)) (operation : Operation κ ν)
    (kept : operation.isClear = false) :
    reads (history ++ [operation]) = reads history + if operation.isGet then 1 else 0 := by
  rw [reads, List.rtakeWhile_concat_pos _ _ _ (by simp [kept]), List.countP_append,
    List.countP_singleton, reads]

omit [DecidableEq κ] in
theorem reads_clear (history : List (Operation κ ν)) : reads (history ++ [.clear]) = 0 := by
  rw [reads, List.rtakeWhile_concat_neg _ _ _ (by simp [Operation.isClear])]
  rfl

/-- What a store and its history have to do with each other, whatever was asked. -/
structure Follows (store : Recency κ ν) (history : List (Operation κ ν)) : Prop where
  distinct : store.keys.Nodup
  fits : store.size ≤ store.capacity
  written : EveryEntry (fun key value => latest? history key = some value) store.entries
  counted : store.hits + store.misses = reads history

theorem keys_placed (store : Recency κ ν) (key : κ) (value : ν) :
    (store.placed key value).map (·.1) =
      (store.keys.filter (· ≠ key) ++ [key]).rtake store.capacity := by
  simp only [placed, List.rtake, List.map_drop, List.map_append, List.map_cons, List.map_nil,
    keys_others, List.length_append, List.length_singleton]
  rw [← keys_others, List.length_map]

theorem placed_distinct (store : Recency κ ν) (distinct : store.keys.Nodup) (key : κ) (value : ν) :
    ((store.placed key value).map (·.1)).Nodup := by
  rw [keys_placed]
  apply (rtake_sublist _ _).nodup
  rw [List.nodup_append]
  refine ⟨distinct.filter _, List.nodup_singleton key, ?_⟩
  intro other member last single
  rw [List.mem_singleton.mp single]
  simpa using (List.mem_filter.mp member).2

theorem placed_fits (store : Recency κ ν) (key : κ) (value : ν) :
    (store.placed key value).length ≤ store.capacity := by
  rw [placed, length_rtake]
  exact Nat.min_le_left _ _

theorem placed_every (store : Recency κ ν) (fact : κ → ν → Prop) (key : κ) (value : ν)
    (old : ∀ entry ∈ store.entries, entry.1 ≠ key → fact entry.1 entry.2)
    (new : fact key value) : EveryEntry fact (store.placed key value) := by
  intro entry member
  rcases List.mem_append.mp ((rtake_sublist _ _).subset member) with other | last
  · obtain ⟨inside, differs⟩ := List.mem_filter.mp other
    exact old entry inside (of_decide_eq_true differs)
  · rw [List.mem_singleton.mp last]
    exact new

theorem perform_follows (store : Recency κ ν) (history : List (Operation κ ν))
    (follows : store.Follows history) (operation : Operation κ ν) :
    (store.perform operation).Follows (history ++ [operation]) := by
  obtain ⟨distinct, fits, written, counted⟩ := follows
  cases operation with
  | get key =>
      -- a read writes nothing
      have same : ∀ other, latest? (history ++ [.get key]) other = latest? history other :=
        latest_concat history (.get key)
      have counts : reads (history ++ [.get key]) = reads history + 1 :=
        reads_concat history (.get key) rfl
      cases found : store.find? key with
      | none =>
          have missed : (store.get key).2 = { store with misses := store.misses + 1 } := by
            rw [get, found]
          rw [perform, missed]
          refine ⟨distinct, fits, ?_, ?_⟩
          · simpa only [same] using written
          · rw [counts, ← counted]
            rfl
      | some value =>
          have known := every_entry_found _ store.entries written key value found
          rw [perform, store.get_eq fits key value found]
          refine ⟨store.placed_distinct distinct key value, store.placed_fits key value, ?_, ?_⟩
          · simp only [same]
            exact store.placed_every _ key value (fun entry member _ => written entry member) known
          · rw [counts, ← counted]
            exact Nat.add_right_comm ..
  | set key value =>
      rw [perform, store.insert_eq fits key value]
      refine ⟨store.placed_distinct distinct key value, store.placed_fits key value, ?_, ?_⟩
      · apply store.placed_every
        · intro entry member differs
          rw [latest_concat, Operation.written?, if_neg (Ne.symm differs)]
          exact written entry member
        · rw [latest_concat, Operation.written?, if_pos rfl]
          rfl
      · exact counted.trans (reads_concat history (.set key value) rfl).symm
  | has key =>
      refine ⟨distinct, fits, ?_, counted.trans (reads_concat history (.has key) rfl).symm⟩
      intro entry member
      exact (latest_concat history (.has key) entry.1).trans (written entry member)
  | delete key =>
      refine ⟨?_, ?_, ?_, counted.trans (reads_concat history (.delete key) rfl).symm⟩
      · rw [keys, perform, erase, keys_others]
        exact distinct.filter _
      · exact (List.length_filter_le _ store.entries).trans fits
      · intro entry member
        have old := written entry (store.others_inside key entry member)
        exact (latest_concat history (.delete key) entry.1).trans old
  | clear =>
      refine ⟨List.nodup_nil, Nat.zero_le _, ?_, (reads_clear history).symm⟩
      exact fun entry member => nomatch member

theorem performAll_follows (capacity : Capacity) (operations : List (Operation κ ν)) :
    ((empty capacity : Recency κ ν).performAll operations).Follows operations := by
  induction operations using List.reverseRecOn with
  | nil =>
      refine ⟨List.nodup_nil, Nat.zero_le _, ?_, rfl⟩
      exact fun entry member => nomatch member
  | append_singleton history operation ih =>
      rw [performAll_concat]
      exact perform_follows _ history ih operation

def touchKey (capacity : Nat) (keys : List κ) (key : κ) : List κ :=
  (keys.filter (· ≠ key) ++ [key]).rtake capacity

/-- Apart from removals, an operation does to the keys what its touch does. -/
theorem perform_keys (store : Recency κ ν) (fits : store.size ≤ store.capacity)
    (operation : Operation κ ν) (keeps : operation.removes = false) :
    (store.perform operation).keys =
      (store.touched? operation).toList.foldl (touchKey store.capacity) store.keys := by
  cases operation with
  | get key =>
      cases found : store.find? key with
      | none =>
          have absent : store.contains key = false := by rw [contains, found]; rfl
          have missed : (store.get key).2 = { store with misses := store.misses + 1 } := by
            rw [get, found]
          rw [perform, missed, touched?, absent]
          rfl
      | some value =>
          have present : store.contains key = true := by rw [contains, found]; rfl
          rw [perform, store.get_eq fits key value found, touched?, present]
          exact store.keys_placed key value
  | set key value =>
      rw [perform, store.insert_eq fits key value]
      exact store.keys_placed key value
  | has key => rfl
  | delete key => cases keeps
  | clear => cases keeps

theorem touches_concat (store : Recency κ ν) (history : List (Operation κ ν))
    (operation : Operation κ ν) :
    store.touches (history ++ [operation]) =
      store.touches history ++ ((store.performAll history).touched? operation).toList := by
  induction history generalizing store with
  | nil => exact List.append_nil _
  | cons first rest ih =>
      rw [List.cons_append, touches, touches, ih, List.append_assoc]
      rfl

theorem performAll_keys (capacity : Capacity) (operations : List (Operation κ ν))
    (keep : ∀ operation ∈ operations, operation.removes = false) :
    ((empty capacity : Recency κ ν).performAll operations).keys =
      ((empty capacity : Recency κ ν).touches operations).foldl (touchKey capacity) [] := by
  induction operations using List.reverseRecOn with
  | nil => rfl
  | append_singleton history operation ih =>
      have earlier := ih fun other member => keep other (List.mem_append_left _ member)
      have last := keep operation (List.mem_append_right _ List.mem_cons_self)
      have follows := performAll_follows (κ := κ) (ν := ν) capacity history
      rw [performAll_concat, perform_keys _ follows.fits operation last, earlier,
        performAll_capacity, touches_concat, List.foldl_append]
      rfl

theorem dedup_concat (keys : List κ) (key : κ) :
    (keys ++ [key]).dedup = keys.dedup.filter (· ≠ key) ++ [key] := by
  induction keys with
  | nil => rfl
  | cons first rest ih =>
      rw [List.cons_append]
      by_cases again : first ∈ rest
      · rw [List.dedup_cons_of_mem (List.mem_append_left _ again), List.dedup_cons_of_mem again, ih]
      · rw [List.dedup_cons_of_notMem again]
        by_cases same : first = key
        · have member : first ∈ rest ++ [key] :=
            List.mem_append_right _ (List.mem_singleton.mpr same)
          rw [List.dedup_cons_of_mem member, ih, List.filter_cons_of_neg (by simpa using same)]
        · have absent : first ∉ rest ++ [key] := by
            rw [List.mem_append, List.mem_singleton]
            exact not_or.mpr ⟨again, same⟩
          rw [List.dedup_cons_of_notMem absent, ih, List.filter_cons_of_pos (by simpa using same)]
          rfl

theorem filter_ne_eq_erase (keys : List κ) (distinct : keys.Nodup) (key : κ) :
    keys.filter (· ≠ key) = keys.erase key := by
  rw [distinct.erase_eq_filter]
  simp only [ne_eq, decide_not]
  rfl

/-- A key that was let go before does not come back by a touch of another. -/
theorem touchKey_rtake (capacity : Nat) (keys : List κ) (distinct : keys.Nodup) (key : κ) :
    touchKey capacity (keys.rtake capacity) key = touchKey capacity keys key := by
  by_cases short : keys.length ≤ capacity
  · rw [rtake_of_length_le capacity keys short]
  · have full : (keys.rtake capacity).length = capacity := by
      rw [length_rtake]
      omega
    -- at most one of the keys that stayed is the touched one
    have erased : (keys.rtake capacity).filter (· ≠ key) = (keys.rtake capacity).erase key :=
      filter_ne_eq_erase _ ((rtake_sublist capacity keys).nodup distinct) key
    have long : capacity ≤ ((keys.rtake capacity).filter (· ≠ key) ++ [key]).length := by
      rw [erased, List.length_append, List.length_singleton, List.length_erase]
      split <;> omega
    have split : keys = keys.take (keys.length - capacity) ++ keys.rtake capacity :=
      (List.take_append_drop _ keys).symm
    calc
      touchKey capacity (keys.rtake capacity) key =
          ((keys.take (keys.length - capacity)).filter (· ≠ key) ++
            ((keys.rtake capacity).filter (· ≠ key) ++ [key])).rtake capacity :=
        (rtake_append_of_le_length capacity _ _ long).symm
      _ = touchKey capacity keys key := by
        rw [← List.append_assoc, ← List.filter_append, ← split, touchKey]

theorem foldl_touchKey (capacity : Nat) (touched : List κ) :
    touched.foldl (touchKey capacity) [] = touched.dedup.rtake capacity := by
  induction touched using List.reverseRecOn with
  | nil => simp
  | append_singleton earlier key ih =>
      rw [List.foldl_concat, ih, touchKey_rtake capacity _ (List.nodup_dedup earlier), dedup_concat]
      rfl

/-- A key is gone when as many others as there is room for were touched after it. -/
theorem absent_after (capacity : Nat) (earlier later : List κ) (key : κ) (once : key ∉ later)
    (many : capacity ≤ later.dedup.length) :
    key ∉ (earlier ++ key :: later).dedup.rtake capacity := by
  have cut : earlier ++ key :: later = (earlier ++ [key]) ++ later := by simp
  obtain ⟨front, split⟩ := List.suffix_union_right (earlier ++ [key]) later.dedup
  rw [cut, List.dedup_append, ← split, rtake_append_of_le_length capacity front _ many]
  intro member
  exact once (List.mem_dedup.mp ((rtake_sublist capacity _).subset member))

end Recency

/-- Whatever is asked of a fresh store, its keys are distinct and fit, a read that hits gives the
value of the latest write, and every read since the last clearing is counted. As long as nothing is
taken out, the keys are the last distinct ones touched, in the order of their last touch; so a key
is gone once as many others as there is room for were touched after it. -/
theorem store_follows_history {κ ν : Type} [DecidableEq κ] (capacity : Capacity)
    (operations : List (Recency.Operation κ ν)) :
    let fresh : Recency κ ν := .empty capacity
    let store := fresh.performAll operations
    let order := (fresh.touches operations).dedup
    store.keys.Nodup ∧ store.keys.length ≤ capacity.val ∧
    (∀ key, store.contains key = true →
      ∃ value, (store.get key).1 = some value ∧ Recency.latest? operations key = some value) ∧
    store.hits + store.misses = Recency.reads operations ∧
    ((∀ operation ∈ operations, operation.removes = false) →
      store.keys = order.rtake (min capacity.val order.length) ∧
      ∀ earlier key later, fresh.touches operations = earlier ++ key :: later → key ∉ later →
        capacity.val ≤ later.dedup.length → key ∉ store.keys) := by
  intro fresh store order
  have follows : store.Follows operations := Recency.performAll_follows capacity operations
  have kept : store.capacity = capacity := fresh.performAll_capacity operations
  refine ⟨follows.distinct, ?_, ?_, follows.counted, ?_⟩
  · rw [← kept, Recency.keys, List.length_map]
    exact follows.fits
  · intro key present
    obtain ⟨value, found⟩ := Option.isSome_iff_exists.mp present
    refine ⟨value, ?_, every_entry_found _ store.entries follows.written key value found⟩
    rw [Recency.get, found]
  · intro keep
    have keys : store.keys = order.rtake capacity := by
      rw [← Recency.foldl_touchKey]
      exact Recency.performAll_keys capacity operations keep
    constructor
    · rw [keys, List.rtake, List.rtake]
      congr 1
      omega
    · intro earlier key later split once many
      rw [keys]
      simp only [order, split]
      exact Recency.absent_after capacity earlier later key once many

theorem store_follows_history_third_key :
    let operations : List (Recency.Operation Nat Nat) :=
      [.set 1 10, .set 2 20, .get 1, .has 2, .set 3 30]
    let fresh : Recency Nat Nat := .empty ⟨2, by decide⟩
    let store := fresh.performAll operations
    (∀ operation ∈ operations, operation.removes = false) ∧ store.contains 1 = true ∧
      fresh.touches operations = [1] ++ 2 :: [1, 3] ∧ 2 ∉ [1, 3] ∧
      2 ≤ ([1, 3] : List Nat).dedup.length ∧
      (∃ value, (store.get 1).1 = some value ∧ Recency.latest? operations 1 = some value) ∧
      2 ∉ store.keys := by
  intro operations fresh store
  have keep : ∀ operation ∈ operations, operation.removes = false := by decide
  have present : store.contains 1 = true := by decide
  have touched : fresh.touches operations = [1] ++ 2 :: [1, 3] := by decide
  obtain ⟨_, _, latest, _, ordered⟩ := store_follows_history ⟨2, by decide⟩ operations
  have gone := (ordered keep).2 [1] 2 [1, 3] touched (by decide) (by decide)
  exact ⟨keep, present, touched, by decide, by decide, latest 1 present, gone⟩

end Restatement
