import Restatement.Proofs.LastTouch

/-!
Stores of different sizes over the same comments. What is classified is the same, the smaller store
holds the newest part of what the larger one holds and hits no more often, and every miss is an
entry that is still there or was given up.
-/

namespace Restatement

def Comment.key (comment : Comment) : CommentKind × Text := (comment.kind, comment.body)

def Event.isEvictionFrom (store : StoreName) : Event → Bool
  | .evicted other _ => other == store
  | _ => false

def evictions (store : StoreName) (events : List Event) : Nat :=
  events.countP (·.isEvictionFrom store)

theorem rtake_suffix_rtake {α : Type} {small large : Nat} (le : small ≤ large) (items : List α) :
    items.rtake small <:+ items.rtake large := by
  have more : items.length - small = items.length - large +
      (items.length - small - (items.length - large)) := by omega
  rw [List.rtake, List.rtake, more, ← List.drop_drop]
  exact List.drop_suffix ..

theorem evictions_append (store : StoreName) (first second : List Event) :
    evictions store (first ++ second) = evictions store first + evictions store second :=
  List.countP_append

theorem evictions_of_keys {κ : Type} (store : StoreName) (label : κ → Text) (keys : List κ) :
    evictions store (keys.map fun key => .evicted store (label key)) = keys.length := by
  rw [evictions, List.countP_map, List.countP_eq_length.mpr]
  intro key _
  exact beq_self_eq_true store

namespace Recency

variable {κ ν : Type} [DecidableEq κ]

theorem insert_new_size (store : Recency κ ν) (key : κ) (value : ν)
    (absent : store.contains key = false) :
    (store.insert key value).2.size + (store.insert key value).1.toList.length =
      store.size + 1 := by
  have positive := store.capacity.property
  simp only [insert, absent, Bool.false_eq_true, if_false]
  split
  case isTrue full =>
      have nonempty : 0 < store.entries.length := positive.trans_le full
      cases entries : store.entries with
      | nil =>
          rw [entries] at nonempty
          cases nonempty
      | cons oldest newer => simp [size, keys, entries]
  case isFalse room => simp [size]

theorem placed_known_length (store : Recency κ ν) (distinct : store.keys.Nodup)
    (fits : store.size ≤ store.capacity) (key : κ) (value : ν) (known : key ∈ store.keys) :
    (store.placed key value).length = store.size := by
  have positive : 0 < store.keys.length := List.length_pos_of_mem known
  have same : store.keys.length = store.size := List.length_map ..
  have others : (store.others key).length = store.size - 1 := by
    rw [← List.length_map (·.1), keys_others, filter_ne_eq_erase _ distinct,
      List.length_erase_of_mem known, same]
  rw [placed, length_rtake, List.length_append, List.length_singleton, others]
  omega

end Recency

namespace Caches

/-- What classifying a comment does to the store of classifications: the comment's key is touched,
and the request is counted as a hit, or as a miss that is an entry more or an entry given up. -/
structure Consults (caches : Caches) (comment : Comment) (result : Logged Classification) :
    Prop where
  capacity : result.caches.remarks.capacity = caches.remarks.capacity
  keys : result.caches.remarks.keys =
    Recency.touchKey caches.remarks.capacity caches.remarks.keys comment.key
  hits : result.caches.remarks.hits =
    caches.remarks.hits + if comment.key ∈ caches.remarks.keys then 1 else 0
  misses : result.caches.remarks.misses =
    caches.remarks.misses + if comment.key ∈ caches.remarks.keys then 0 else 1
  size : result.caches.remarks.size + evictions .remarks result.events =
    caches.remarks.size + if comment.key ∈ caches.remarks.keys then 0 else 1

theorem classify_consults (caches : Caches) (distinct : caches.remarks.keys.Nodup)
    (fits : caches.remarks.size ≤ caches.remarks.capacity) (comment : Comment) :
    caches.Consults comment (caches.classify comment) := by
  let store := caches.remarks
  have key : comment.key = (comment.kind, comment.body) := rfl
  simp only [classify, ← key]
  cases found : store.find? comment.key with
  | some known =>
      have present : store.contains comment.key = true := by
        rw [Recency.contains, found]
        rfl
      have member := (store.contains_iff comment.key).mp present
      have read : store.get comment.key =
          (some known, { store with
            entries := store.placed comment.key known, hits := store.hits + 1 }) := by
        rw [← store.get_eq fits comment.key known found, Recency.get, found]
      have length := store.placed_known_length distinct fits comment.key known member
      simp only [store] at read member length
      rw [read]
      refine ⟨rfl, store.keys_placed comment.key known, ?_, ?_, ?_⟩
      · rw [if_pos member]
      · rw [if_pos member]
        rfl
      · rw [if_pos member]
        exact length
  | none =>
      have absent : store.contains comment.key = false := by
        rw [Recency.contains, found]
        rfl
      have missing : comment.key ∉ store.keys := by
        rw [← store.contains_iff, absent]
        exact Bool.false_ne_true
      -- the miss is counted first, and the entry is written to the store that has counted it
      let counted : Recency (CommentKind × Text) Classification :=
        { store with misses := store.misses + 1 }
      have read : store.get comment.key = (none, counted) := by
        rw [Recency.get, found]
      have written := counted.insert_eq fits comment.key comment.classify
      have size := counted.insert_new_size comment.key comment.classify absent
      simp only [store] at read missing
      rw [read]
      refine ⟨?_, ?_, ?_, ?_, ?_⟩
      · simp only [written]
        rfl
      · simp only [written]
        exact counted.keys_placed comment.key comment.classify
      · simp only [written, if_neg missing]
        rfl
      · simp only [written, if_neg missing]
        rfl
      · rw [if_neg missing, evictions_of_keys]
        exact size

theorem classifyEach_append (caches : Caches) (seen later : List Comment) :
    caches.classifyEach (seen ++ later) =
      let before := caches.classifyEach seen
      let after := before.caches.classifyEach later
      ⟨before.value ++ after.value, after.caches, before.events ++ after.events⟩ := by
  induction seen generalizing caches with
  | nil => rfl
  | cons first rest ih => simp only [List.cons_append, classifyEach, ih, List.append_assoc]

theorem classifyEach_concat (caches : Caches) (seen : List Comment) (comment : Comment) :
    caches.classifyEach (seen ++ [comment]) =
      let before := caches.classifyEach seen
      let last := before.caches.classify comment
      ⟨before.value ++ [(comment, last.value)], last.caches, before.events ++ last.events⟩ := by
  simp only [classifyEach_append, classifyEach, List.append_nil]

/-- What a store that was fresh has to do with the comments that were classified with it. -/
structure Accounts (room : Capacity) (comments : List Comment) (caches : Caches)
    (events : List Event) : Prop where
  capacity : caches.remarks.capacity = room
  keys : caches.remarks.keys = (comments.map Comment.key).dedup.rtake room
  requests : caches.remarks.hits + caches.remarks.misses = comments.length
  misses : caches.remarks.misses = caches.remarks.size + evictions .remarks events

theorem Accounts.consults {room : Capacity} {comments : List Comment} {caches : Caches}
    {events : List Event} (accounts : Accounts room comments caches events) (comment : Comment) :
    caches.Consults comment (caches.classify comment) := by
  have length : caches.remarks.size = caches.remarks.keys.length := (List.length_map ..).symm
  apply classify_consults
  · rw [accounts.keys]
    exact (rtake_sublist _ _).nodup (List.nodup_dedup _)
  · rw [length, accounts.keys, accounts.capacity, length_rtake]
    exact Nat.min_le_left ..

theorem Accounts.next {room : Capacity} {comments : List Comment} {caches : Caches}
    {events : List Event} (accounts : Accounts room comments caches events) (comment : Comment) :
    Accounts room (comments ++ [comment]) (caches.classify comment).caches
      (events ++ (caches.classify comment).events) := by
  have step := accounts.consults comment
  refine ⟨step.capacity.trans accounts.capacity, ?_, ?_, ?_⟩
  · rw [step.keys, accounts.keys, accounts.capacity,
      Recency.touchKey_rtake _ _ (List.nodup_dedup _), List.map_append, List.map_singleton,
      Recency.dedup_concat]
    rfl
  · have before := accounts.requests
    rw [step.hits, step.misses, List.length_append, List.length_singleton]
    split <;> omega
  · have before := accounts.misses
    have size := step.size
    rw [step.misses, evictions_append]
    omega

section Fresh

variable (patternCapacity : Capacity)

theorem classifyEach_accounts (room : Capacity) (comments : List Comment) :
    let result := (empty patternCapacity room).classifyEach comments
    Accounts room comments result.caches result.events := by
  induction comments using List.reverseRecOn with
  | nil =>
      have none : ([] : List (CommentKind × Text)).rtake room = [] := by simp
      exact ⟨rfl, none.symm, rfl, rfl⟩
  | append_singleton seen comment ih =>
      simp only [classifyEach_concat]
      exact ih.next comment

/-- The newest keys of a larger store, as many as a smaller one has room for. -/
theorem classifyEach_keys_suffix (small large : Capacity) (le : small.val ≤ large.val)
    (comments : List Comment) :
    ((empty patternCapacity small).classifyEach comments).caches.remarks.keys <:+
      ((empty patternCapacity large).classifyEach comments).caches.remarks.keys := by
  rw [(classifyEach_accounts patternCapacity small comments).keys,
    (classifyEach_accounts patternCapacity large comments).keys]
  exact rtake_suffix_rtake le _

/-- A comment that the smaller store knows is known to the larger one. -/
theorem classifyEach_hits_le (small large : Capacity) (le : small.val ≤ large.val)
    (comments : List Comment) :
    ((empty patternCapacity small).classifyEach comments).caches.remarks.hits ≤
      ((empty patternCapacity large).classifyEach comments).caches.remarks.hits := by
  induction comments using List.reverseRecOn with
  | nil => exact Nat.le_refl 0
  | append_singleton seen comment ih =>
      have inside := (classifyEach_keys_suffix patternCapacity small large le seen).subset
      simp only [classifyEach_concat]
      rw [((classifyEach_accounts patternCapacity small seen).consults comment).hits,
        ((classifyEach_accounts patternCapacity large seen).consults comment).hits]
      by_cases known : comment.key ∈
          ((empty patternCapacity small).classifyEach seen).caches.remarks.keys
      · rw [if_pos known, if_pos (inside known)]
        exact Nat.add_le_add_right ih 1
      · rw [if_neg known]
        exact ih.trans (Nat.le_add_right ..)

end Fresh

end Caches

/-- Comments classified one after the other over fresh caches, at any point on the way. In a store
of any size every comment is classified as it is by itself, the requests so far are the hits and the
misses, and the misses are the entries that are there and those that were given up. Of two stores
the smaller one holds the newest keys of the larger one and has hit no more often. -/
theorem classified_in_any_room (patternCapacity small large : Capacity)
    (le : small.val ≤ large.val) (comments : List Comment) :
    let run := fun room seen => (Caches.empty patternCapacity room).classifyEach seen
    ∀ seen, seen <+: comments →
      (∀ room, let store := (run room seen).caches.remarks
        (run room seen).value = seen.map (fun comment => (comment, comment.classify)) ∧
        (run room seen).value <+: (run room comments).value ∧
        (run room seen).events <+: (run room comments).events ∧
        store.hits + store.misses = seen.length ∧
        store.misses = store.size + evictions .remarks (run room seen).events) ∧
      (run small seen).caches.remarks.keys <:+ (run large seen).caches.remarks.keys ∧
      (run small seen).caches.remarks.hits ≤ (run large seen).caches.remarks.hits := by
  intro run seen beginning
  obtain ⟨later, rfl⟩ := beginning
  refine ⟨?_, Caches.classifyEach_keys_suffix patternCapacity small large le seen,
    Caches.classifyEach_hits_le patternCapacity small large le seen⟩
  intro room store
  have accounts := Caches.classifyEach_accounts patternCapacity room seen
  -- no pattern is compiled, so that any names of characters will do
  let _ := CharacterNames.none
  have gives := (Caches.empty patternCapacity room).classifyEach_gives
    (Caches.empty_faithful patternCapacity room) seen
  have whole := (Caches.empty patternCapacity room).classifyEach_append seen later
  refine ⟨gives.value, ?_, ?_, accounts.requests, accounts.misses⟩
  · simp only [run, whole]
    exact List.prefix_append ..
  · simp only [run, whole]
    exact List.prefix_append ..

theorem classified_in_any_room_alternating :
    let first : Comment := ⟨⟨1, 0, 1, 5, 0, 5⟩, .line, " one", false⟩
    let second : Comment := ⟨⟨2, 0, 2, 5, 6, 11⟩, .line, " two", false⟩
    let comments := [first, second, first, second]
    let one : Capacity := ⟨1, by decide⟩
    let two : Capacity := ⟨2, by decide⟩
    let run := fun room seen => (Caches.empty one room).classifyEach seen
    one.val ≤ two.val ∧ [first, second, first] <+: comments ∧
      (run one [first, second, first]).caches.remarks.keys = [first.key] ∧
      (run two [first, second, first]).caches.remarks.keys = [second.key, first.key] ∧
      (run one [first, second, first]).caches.remarks.keys <:+
        (run two [first, second, first]).caches.remarks.keys ∧
      (run one [first, second, first]).caches.remarks.misses =
        (run one [first, second, first]).caches.remarks.size +
          evictions .remarks (run one [first, second, first]).events := by
  intro first second comments one two run
  have le : one.val ≤ two.val := by decide
  have beginning : [first, second, first] <+: comments := ⟨[second], rfl⟩
  obtain ⟨each, newest, _⟩ :=
    classified_in_any_room one one two le comments [first, second, first] beginning
  obtain ⟨_, _, _, _, misses⟩ := each one
  exact ⟨le, beginning, by decide +kernel, by decide +kernel, newest, misses⟩

end Restatement
