import Mathlib.Data.List.Induction
import Mathlib.Data.List.Pairwise

/-!
# Memories as a history of stores

A memory is what it held at first together with the stores performed on it,
oldest first. Its contents are the replay of that history, so the extent of
every store stays observable after the fact.
-/

namespace ByteMemory

/-- `length` bytes written from `offset` on; byte `k` of the value is `data k`. -/
structure Store where
  offset : Nat
  length : Nat
  data : Nat → UInt8

namespace Store

/-- The store writes this address. -/
def Covers (store : Store) (address : Nat) : Prop :=
  store.offset ≤ address ∧ address < store.offset + store.length

instance (store : Store) (address : Nat) : Decidable (store.Covers address) :=
  inferInstanceAs (Decidable (store.offset ≤ address ∧ address < store.offset + store.length))

/-- Every byte the store writes lies below `size`. -/
def Within (store : Store) (size : Nat) : Prop :=
  ∀ address, store.Covers address → address < size

/-- No address is written by both stores. -/
def Apart (first second : Store) : Prop :=
  ∀ address, first.Covers address → ¬ second.Covers address

/-- The store stays in the `length` bytes from `start` on. -/
def LiesIn (store : Store) (start length : Nat) : Prop :=
  start ≤ store.offset ∧ store.offset + store.length ≤ start + length

def apply (store : Store) (contents : Nat → UInt8) (address : Nat) : UInt8 :=
  if store.Covers address then store.data (address - store.offset) else contents address

theorem within_of_le {store : Store} {size : Nat}
    (bounded : store.offset + store.length ≤ size) : store.Within size :=
  fun _ covered => Nat.lt_of_lt_of_le covered.2 bounded

theorem within_iff {store : Store} {size : Nat} :
    store.Within size ↔ store.length = 0 ∨ store.offset + store.length ≤ size := by
  constructor
  · intro within
    by_cases empty : store.length = 0
    · exact .inl empty
    · have last := within (store.offset + store.length - 1) ⟨by omega, by omega⟩
      exact .inr (by omega)
  · rintro (empty | bounded)
    · intro address covered
      have := covered.1
      have := covered.2
      omega
    · exact within_of_le bounded

theorem apart_of_le {first second : Store}
    (ordered : first.offset + first.length ≤ second.offset ∨
      second.offset + second.length ≤ first.offset) : first.Apart second := by
  intro address covered other
  have := covered.1
  have := covered.2
  have := other.1
  have := other.2
  omega

theorem Apart.symm {first second : Store} (apart : first.Apart second) :
    second.Apart first :=
  fun address covered other => apart address other covered

instance : Std.Symm Apart := ⟨fun _ _ => Apart.symm⟩

/-- The same store in a memory that starts `base` bytes earlier. -/
def shift (store : Store) (base : Nat) : Store :=
  { store with offset := base + store.offset }

theorem covers_shift_iff {store : Store} {base address : Nat} :
    (store.shift base).Covers (base + address) ↔ store.Covers address := by
  simp only [Covers, shift, Nat.add_assoc, Nat.add_le_add_iff_left, Nat.add_lt_add_iff_left]

@[simp]
theorem apply_of_covers {store : Store} {address : Nat} (covered : store.Covers address)
    (contents : Nat → UInt8) :
    store.apply contents address = store.data (address - store.offset) :=
  if_pos covered

@[simp]
theorem apply_of_not_covers {store : Store} {address : Nat}
    (outside : ¬ store.Covers address) (contents : Nat → UInt8) :
    store.apply contents address = contents address :=
  if_neg outside

theorem apply_shift (store : Store) (base : Nat) (contents : Nat → UInt8) (address : Nat) :
    (store.shift base).apply contents (base + address) =
      store.apply (fun k => contents (base + k)) address := by
  by_cases covered : store.Covers address
  · rw [apply_of_covers (covers_shift_iff.mpr covered), apply_of_covers covered]
    simp only [shift, Nat.add_sub_add_left]
  · rw [apply_of_not_covers (mt covers_shift_iff.mp covered), apply_of_not_covers covered]

theorem apply_comm {first second : Store} (apart : first.Apart second)
    (contents : Nat → UInt8) :
    first.apply (second.apply contents) = second.apply (first.apply contents) := by
  funext address
  by_cases covered : first.Covers address
  · have outside := apart address covered
    rw [apply_of_covers covered, apply_of_not_covers outside, apply_of_covers covered]
  · rw [apply_of_not_covers covered]
    simp only [apply, if_neg covered]

end Store

/-- The contents after performing the stores of `log` in order. -/
def replay (contents : Nat → UInt8) (log : List Store) : Nat → UInt8 :=
  log.foldl (fun current store => store.apply current) contents

@[simp]
theorem replay_nil (contents : Nat → UInt8) : replay contents [] = contents := rfl

@[simp]
theorem replay_cons (contents : Nat → UInt8) (store : Store) (log : List Store) :
    replay contents (store :: log) = replay (store.apply contents) log := rfl

theorem replay_append (contents : Nat → UInt8) (first second : List Store) :
    replay contents (first ++ second) = replay (replay contents first) second :=
  List.foldl_append

/-- A replay changes no address on account of another one. -/
theorem replay_congr (log : List Store) {first second : Nat → UInt8} {address : Nat}
    (agree : first address = second address) :
    replay first log address = replay second log address := by
  induction log generalizing first second with
  | nil => exact agree
  | cons store rest ih =>
    apply ih
    simp only [Store.apply, agree]

/-- Stores placed `base` bytes further on act there as they act at the start. -/
theorem replay_map_shift (log : List Store) (base : Nat) (contents : Nat → UInt8)
    (address : Nat) :
    replay contents (log.map fun store => store.shift base) (base + address) =
      replay (fun k => contents (base + k)) log address := by
  induction log generalizing contents with
  | nil => rfl
  | cons store rest ih =>
    rw [List.map_cons, replay_cons, replay_cons, ih]
    congr 1
    funext k
    exact store.apply_shift base contents k

theorem replay_of_not_covers {log : List Store} {address : Nat}
    (outside : ∀ store ∈ log, ¬ store.Covers address) (contents : Nat → UInt8) :
    replay contents log address = contents address := by
  induction log generalizing contents with
  | nil => rfl
  | cons store rest ih =>
    rw [replay_cons, ih (fun other member => outside other (List.mem_cons_of_mem _ member)),
      Store.apply_of_not_covers (outside store (List.mem_cons_self ..))]

/-- Where no two stores overlap, a covered address holds what its store wrote. -/
theorem replay_of_apart {log : List Store} (apart : log.Pairwise Store.Apart)
    {store : Store} (member : store ∈ log) {address : Nat} (covered : store.Covers address)
    (contents : Nat → UInt8) :
    replay contents log address = store.data (address - store.offset) := by
  induction log generalizing contents with
  | nil => cases member
  | cons head rest ih =>
    obtain ⟨headApart, restApart⟩ := List.pairwise_cons.mp apart
    rw [replay_cons]
    rcases List.mem_cons.mp member with equal | inRest
    · subst equal
      rw [replay_of_not_covers (fun other later => headApart other later address covered),
        Store.apply_of_covers covered]
    · exact ih restApart inRest (head.apply contents)

/-- Stores that do not overlap may be performed in any order. -/
theorem replay_perm {log other : List Store} (perm : log.Perm other)
    (apart : log.Pairwise Store.Apart) (contents : Nat → UInt8) :
    replay contents log = replay contents other := by
  refine perm.foldl_eq' ?_ contents
  intro first firstMember second secondMember current
  by_cases same : first = second
  · rw [same]
  · exact Store.apply_comm (apart.forall secondMember firstMember (Ne.symm same)) current

/-- The byte that the last store covering this address left there. -/
def mostRecent (log : List Store) (address : Nat) : Option UInt8 :=
  (log.reverse.find? fun store => decide (store.Covers address)).map fun store =>
    store.data (address - store.offset)

/-- A replay shows at each address what was stored there last. -/
theorem replay_eq_mostRecent (contents : Nat → UInt8) (log : List Store) (address : Nat) :
    replay contents log address = (mostRecent log address).getD (contents address) := by
  induction log using List.reverseRecOn with
  | nil => rfl
  | append_singleton rest last ih =>
    rw [replay_append, replay_cons, replay_nil, mostRecent, List.reverse_concat]
    by_cases covered : last.Covers address
    · simp [covered]
    · rw [Store.apply_of_not_covers covered, ih]
      simp [mostRecent, covered]

theorem mostRecent_isSome_iff {log : List Store} {address : Nat} :
    (mostRecent log address).isSome ↔ ∃ store ∈ log, store.Covers address := by
  simp [mostRecent]

theorem mostRecent_cons_of_not_covers {store : Store} {address : Nat}
    (outside : ¬ store.Covers address) (log : List Store) :
    mostRecent (store :: log) address = mostRecent log address := by
  simp [mostRecent, List.find?_append, outside]

theorem mostRecent_append (first second : List Store) (address : Nat) :
    mostRecent (first ++ second) address =
      (mostRecent second address).or (mostRecent first address) := by
  simp only [mostRecent, List.reverse_append, List.find?_append, Option.map_or]

/-- What a replay leaves at an address does not depend on the contents before it
exactly when some store covers the address. -/
theorem replay_eq_forall_iff {log : List Store} {address : Nat} {value : UInt8} :
    (∀ contents, replay contents log address = value) ↔ mostRecent log address = some value := by
  simp only [replay_eq_mostRecent]
  cases mostRecent log address with
  | none =>
    refine iff_of_false ?_ (by simp)
    intro always
    have shifted := always fun _ => value + 1
    simp at shifted
  | some stored => simp

/-- Stores performed in between go unnoticed exactly if every byte of them is stored over
later or was there before. -/
theorem replay_insert_iff {before inserted after : List Store} :
    (∀ contents address, replay contents (before ++ (inserted ++ after)) address =
        replay contents (before ++ after) address) ↔
      ∀ address value, mostRecent after address = none →
        mostRecent inserted address = some value → mostRecent before address = some value := by
  rw [forall_comm]
  refine forall_congr' fun address => ?_
  simp only [replay_eq_mostRecent, mostRecent_append]
  cases mostRecent after address with
  | some later => simp
  | none =>
    cases mostRecent inserted address with
    | none => simp
    | some value =>
      have stored := @replay_eq_forall_iff before address value
      simp only [replay_eq_mostRecent] at stored
      simp only [Option.none_or, Option.some_or, Option.getD_some, Option.some.injEq,
        forall_const, forall_eq', ← stored]
      exact forall_congr' fun _ => eq_comm

/-- Only a log without a byte in it leaves all contents alone. -/
theorem replay_eq_self_iff {log : List Store} :
    (∀ contents address, replay contents log address = contents address) ↔
      ∀ store ∈ log, store.length = 0 := by
  constructor
  · intro unchanged store member
    by_contra written
    have covered : store.Covers store.offset :=
      ⟨Nat.le_refl _, Nat.lt_add_of_pos_right (Nat.pos_of_ne_zero written)⟩
    obtain ⟨value, recent⟩ :=
      Option.isSome_iff_exists.mp (mostRecent_isSome_iff.mpr ⟨store, member, covered⟩)
    have other := unchanged (fun _ => value + 1) store.offset
    rw [replay_eq_forall_iff.mpr recent] at other
    simp at other
  · intro empty contents address
    apply replay_of_not_covers
    rintro store member ⟨start, finish⟩
    rw [empty store member] at finish
    exact absurd start (Nat.not_le.mpr finish)

structure Memory where
  initial : Nat → UInt8
  log : List Store

namespace Memory

/-- A memory on which nothing has been stored yet. -/
def holding (contents : Nat → UInt8) : Memory := ⟨contents, []⟩

/-- The byte a load from `address` sees. -/
def byte (memory : Memory) : Nat → UInt8 := replay memory.initial memory.log

def store (memory : Memory) (store : Store) : Memory :=
  { memory with log := memory.log ++ [store] }

/-- Perform several stores in order. -/
def storeAll (memory : Memory) (stores : List Store) : Memory :=
  { memory with log := memory.log ++ stores }

/-- `memset` -/
def fill (memory : Memory) (offset length : Nat) (value : UInt8) : Memory :=
  memory.store ⟨offset, length, fun _ => value⟩

/-- `memcpy` from bytes outside this memory -/
def copy (memory : Memory) (offset length : Nat) (source : Nat → UInt8) : Memory :=
  memory.store ⟨offset, length, source⟩

@[simp]
theorem byte_holding (contents : Nat → UInt8) : (holding contents).byte = contents := rfl

@[simp]
theorem log_holding (contents : Nat → UInt8) : (holding contents).log = [] := rfl

@[simp]
theorem log_store (memory : Memory) (s : Store) :
    (memory.store s).log = memory.log ++ [s] := rfl

@[simp]
theorem log_fill (memory : Memory) (offset length : Nat) (value : UInt8) :
    (memory.fill offset length value).log =
      memory.log ++ [⟨offset, length, fun _ => value⟩] := rfl

@[simp]
theorem log_copy (memory : Memory) (offset length : Nat) (source : Nat → UInt8) :
    (memory.copy offset length source).log = memory.log ++ [⟨offset, length, source⟩] := rfl

@[simp]
theorem log_storeAll (memory : Memory) (stores : List Store) :
    (memory.storeAll stores).log = memory.log ++ stores := rfl

@[simp]
theorem storeAll_nil (memory : Memory) : memory.storeAll [] = memory := by
  simp [storeAll]

theorem storeAll_cons (memory : Memory) (s : Store) (stores : List Store) :
    memory.storeAll (s :: stores) = (memory.store s).storeAll stores := by
  simp [storeAll, store]

theorem storeAll_storeAll (memory : Memory) (first second : List Store) :
    (memory.storeAll first).storeAll second = memory.storeAll (first ++ second) := by
  simp [storeAll]

theorem byte_storeAll (memory : Memory) (stores : List Store) :
    (memory.storeAll stores).byte = replay memory.byte stores :=
  replay_append memory.initial memory.log stores

theorem byte_store (memory : Memory) (s : Store) :
    (memory.store s).byte = s.apply memory.byte := by
  simp only [byte, store, replay_append, replay_cons, replay_nil]

theorem byte_store_of_not_covers (memory : Memory) {s : Store} {address : Nat}
    (outside : ¬ s.Covers address) : (memory.store s).byte address = memory.byte address := by
  rw [byte_store, Store.apply_of_not_covers outside]

theorem byte_fill (memory : Memory) (offset length : Nat) (value : UInt8) (address : Nat) :
    (memory.fill offset length value).byte address =
      if offset ≤ address ∧ address < offset + length then value else memory.byte address := by
  rw [fill, byte_store]
  rfl

theorem byte_copy (memory : Memory) (offset length : Nat) (source : Nat → UInt8)
    (address : Nat) :
    (memory.copy offset length source).byte address =
      if offset ≤ address ∧ address < offset + length then source (address - offset)
      else memory.byte address := by
  rw [copy, byte_store]
  rfl

end Memory

end ByteMemory
