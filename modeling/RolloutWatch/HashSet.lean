/-!
# Sets of hashed keys

A set looks for a key by its digest first, and takes what it finds there only if it is equal. A
search may also be for a value of another kind, if the keys can be borrowed as values of that
kind. `LawfulBorrow` says what has to agree for this: a borrowed key must write the same bytes to
a hasher, and must be equal to the same keys. Then a search with it and a search with the key
itself find the same.

The hasher belongs to the set, and nothing is known of it but that it gives equal digests for
equal bytes. In what order a set holds its keys is not for anybody to see. Here they stand in the
order in which they arrived.
-/

namespace RolloutWatch

/-- Values that can be hashed. -/
class Hash (α : Type) where
  /-- The bytes that a value writes to a hasher. -/
  written : α → List UInt8

/-- A text writes its UTF-8 form, and behind it a byte that no such form has. -/
instance : Hash String where
  written text := text.toUTF8.data.toList ++ [0xff]

/-- Keys that can be looked at as values of another kind. -/
class Borrow (κ β : Type) where
  borrow : κ → β

export Borrow (borrow)

/-- A key is a value of its own kind. -/
instance {κ : Type} : Borrow κ κ where
  borrow key := key

/-- Borrowed keys are equal when the keys are, and are hashed like them. -/
class LawfulBorrow (κ β : Type) [BEq κ] [Hash κ] [BEq β] [Hash β] [Borrow κ β] : Prop where
  beq_borrow (key other : κ) : ((borrow key : β) == borrow other) = (key == other)
  written_borrow (key : κ) : Hash.written (borrow key : β) = Hash.written key

/-- A hasher makes a digest of the bytes that are written to it. -/
structure Hasher where
  digest : List UInt8 → UInt64

/-- The bytes are taken as digits of a number, of which the last 64 bits are the digest. -/
instance : Inhabited Hasher where
  default := { digest := fun bytes => bytes.foldl (fun sum byte => 31 * sum + byte.toUInt64) 0 }

namespace Hasher

variable {κ β : Type} [Hash κ] [BEq β] [Hash β] [Borrow κ β]

/-- Whether a search for `probe` ends at `key`: the digests are the same, and the borrowed key
equals what is searched for. -/
def finds (hasher : Hasher) (probe : β) (key : κ) : Bool :=
  hasher.digest (Hash.written key) == hasher.digest (Hash.written probe) &&
    (borrow key : β) == probe

/-- It makes no difference whether one searches with a key or with what it is borrowed as. -/
theorem finds_borrow [BEq κ] [LawfulBorrow κ β] (hasher : Hasher) (key other : κ) :
    hasher.finds (borrow other : β) key = hasher.finds other key := by
  rw [finds, finds, LawfulBorrow.beq_borrow, LawfulBorrow.written_borrow]
  rfl

theorem finds_iff [BEq κ] [LawfulBEq κ] {hasher : Hasher} {key other : κ} :
    hasher.finds other key = true ↔ key = other := by
  constructor
  · intro found
    exact eq_of_beq (Bool.and_eq_true_iff.mp found).2
  · rintro rfl
    exact Bool.and_eq_true_iff.mpr ⟨BEq.rfl, BEq.rfl⟩

end Hasher

/-- A finite set of keys. -/
@[ext] structure HashSet (κ : Type) [BEq κ] [Hash κ] where
  hasher : Hasher := default
  /-- The keys, the oldest first. -/
  members : List κ := []
  /-- The search for a key does not end at an older one. -/
  apart : members.Pairwise fun older newer => hasher.finds newer older = false := by simp

namespace HashSet

variable {κ β : Type} [BEq κ] [Hash κ] [BEq β] [Hash β] [Borrow κ β]

instance [Repr κ] : Repr (HashSet κ) where
  reprPrec set := reprPrec set.members

/-- The set with this hasher that has no keys. -/
def withHasher (hasher : Hasher) : HashSet κ where
  hasher

instance : EmptyCollection (HashSet κ) where
  emptyCollection := withHasher default

/-- Whether a search for `probe` finds a key. -/
def contains (set : HashSet κ) (probe : β) : Bool :=
  set.members.any (set.hasher.finds probe)

/-- Adds a key, and tells whether it is new. A set that has an equal key stays as it is. -/
def enter (set : HashSet κ) (key : κ) : HashSet κ × Bool :=
  if known : set.contains key = true then (set, false)
  else
    ({ set with
        members := set.members ++ [key]
        apart := by
          refine List.pairwise_append.mpr ⟨set.apart, List.pairwise_singleton .., ?_⟩
          intro older member newer new
          cases List.mem_singleton.mp new
          have notFound : ¬set.hasher.finds key older = true := fun found =>
            known (List.any_eq_true.mpr ⟨older, member, found⟩)
          exact Bool.eq_false_iff.mpr notFound },
      true)

/-- Adds a key. -/
def insert (set : HashSet κ) (key : κ) : HashSet κ :=
  (set.enter key).1

/-- The number of keys. -/
def size (set : HashSet κ) : Nat :=
  set.members.length

def isEmpty (set : HashSet κ) : Bool :=
  set.members.isEmpty

/-- A set answers the same to a key and to what the key is borrowed as. -/
theorem contains_borrow [LawfulBorrow κ β] (set : HashSet κ) (key : κ) :
    set.contains (borrow key : β) = set.contains key := by
  rw [contains, contains]
  exact congrArg set.members.any (funext fun other => set.hasher.finds_borrow other key)

theorem enter_snd (set : HashSet κ) (key : κ) : (set.enter key).2 = !set.contains key := by
  rw [enter]
  split
  · next known =>
      rw [known]
      rfl
  · next new =>
      rw [Bool.eq_false_iff.mpr new]
      rfl

@[simp] theorem hasher_insert (set : HashSet κ) (key : κ) :
    (set.insert key).hasher = set.hasher := by
  rw [insert, enter]
  split <;> rfl

section Lawful

variable [LawfulBEq κ] {set : HashSet κ} {key new : κ}

theorem contains_iff : set.contains key = true ↔ key ∈ set.members := by
  rw [contains, List.any_eq_true]
  constructor
  · rintro ⟨other, member, found⟩
    exact Hasher.finds_iff.mp found ▸ member
  · intro member
    exact ⟨key, member, Hasher.finds_iff.mpr rfl⟩

/-- An added key is new if it is not held yet. -/
theorem enter_snd_iff (set : HashSet κ) (key : κ) :
    (set.enter key).2 = true ↔ key ∉ set.members := by
  rw [enter_snd, Bool.not_eq_true', ← Bool.not_eq_true, contains_iff]

/-- No key is held twice. -/
theorem nodup (set : HashSet κ) : set.members.Nodup :=
  set.apart.imp fun apart same => Bool.eq_false_iff.mp apart (Hasher.finds_iff.mpr same)

theorem members_insert_of_mem (known : key ∈ set.members) :
    (set.insert key).members = set.members := by
  rw [insert, enter, dif_pos (contains_iff.mpr known)]

theorem members_insert_of_notMem (new : key ∉ set.members) :
    (set.insert key).members = set.members ++ [key] := by
  rw [insert, enter, dif_neg (mt contains_iff.mp new)]

theorem mem_insert : key ∈ (set.insert new).members ↔ key ∈ set.members ∨ key = new := by
  by_cases known : new ∈ set.members
  · rw [members_insert_of_mem known]
    constructor
    · exact .inl
    · rintro (member | rfl)
      · exact member
      · exact known
  · rw [members_insert_of_notMem known, List.mem_append, List.mem_singleton]

end Lawful

end HashSet

end RolloutWatch
