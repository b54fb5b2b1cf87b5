import Mediasoup.Lib.Table

/-!
# Objects with an index

Objects live at addresses, each under a key of its own, and a table leads from the keys to the addresses. Between the operations
of its owner the table leads exactly to the live objects (`Coherent`), so a key has at most one object (`Coherent.unique`). Each
operation keeps this and a property of all objects, and changes what is found for one key only (`Changes`).
-/

namespace Mediasoup.Lib

structure Registry (κ α : Type) where
  objects : Table Nat (κ × α) := ∅
  index : Table κ Nat := ∅
  next : Nat := 0

namespace Registry

variable {κ α : Type} [DecidableEq κ]

/-- `index[k] = new Object(k)` -/
def create (r : Registry κ α) (k : κ) (a : α) : Registry κ α where
  objects := r.objects.insert r.next (k, a)
  index := r.index.insert k r.next
  next := r.next + 1

def write (r : Registry κ α) (id : Nat) (k : κ) (a : α) : Registry κ α :=
  { r with objects := r.objects.insert id (k, a) }

/-- `delete` -/
def free (r : Registry κ α) (id : Nat) : Registry κ α := { r with objects := r.objects.erase id }

/-- `index.erase(k)` -/
def unlink (r : Registry κ α) (k : κ) : Registry κ α := { r with index := r.index.erase k }

structure Coherent (r : Registry κ α) : Prop where
  live : ∀ k id, r.index.lookup k = some id → ∃ a, r.objects.lookup id = some (k, a)
  indexed : ∀ id k a, r.objects.lookup id = some (k, a) → r.index.lookup k = some id
  fresh : ∀ id x, r.objects.lookup id = some x → id < r.next

def Holds (r : Registry κ α) (k : κ) (id : Nat) (a : α) : Prop :=
  r.index.lookup k = some id ∧ r.objects.lookup id = some (k, a)

variable {r : Registry κ α} {k k' : κ} {id id' : Nat} {a a' : α}

theorem coherent_empty : ({} : Registry κ α).Coherent := ⟨by rintro k id ⟨⟩, by rintro id k a ⟨⟩, by rintro id x ⟨⟩⟩

theorem Coherent.unique (h : r.Coherent) (h₁ : r.objects.lookup id = some (k, a))
    (h₂ : r.objects.lookup id' = some (k, a')) : id = id' :=
  Option.some.inj ((h.indexed _ _ _ h₁).symm.trans (h.indexed _ _ _ h₂))

theorem Coherent.holds (h : r.Coherent) (hindex : r.index.lookup k = some id) : ∃ a, r.Holds k id a :=
  (h.live k id hindex).imp fun _ ha => ⟨hindex, ha⟩

theorem Holds.unique (h : r.Holds k id a) (h' : r.Holds k id' a') : id = id' ∧ a = a' := by
  have hid : id = id' := Option.some.inj (h.1.symm.trans h'.1)
  subst hid
  exact ⟨rfl, congrArg Prod.snd (Option.some.inj (h.2.symm.trans h'.2))⟩

theorem Coherent.holds_of_live (h : r.Coherent) (hlive : r.objects.lookup id = some (k, a)) : r.Holds k id a :=
  ⟨h.indexed id k a hlive, hlive⟩

theorem Holds.key_ne (h : r.Holds k id a) (h' : r.Holds k' id' a') (hne : k' ≠ k) : id' ≠ id := by
  rintro rfl
  exact hne (congrArg Prod.fst (Option.some.inj (h'.2.symm.trans h.2)))

/-! ## Creation -/

theorem Coherent.create (h : r.Coherent) (hnew : r.index.lookup k = none) (a : α) : (r.create k a).Coherent where
  live k' id' hindex := by
    rcases Table.lookup_insert_iff.mp hindex with ⟨rfl, rfl⟩ | ⟨-, hold⟩
    · exact ⟨a, AList.lookup_insert _⟩
    · obtain ⟨a', ha'⟩ := h.live k' id' hold
      exact ⟨a', Table.lookup_insert_iff.mpr (.inr ⟨Nat.ne_of_lt (h.fresh id' _ ha'), ha'⟩)⟩
  indexed id' k' a' hobject := by
    rcases Table.lookup_insert_iff.mp hobject with ⟨rfl, heq⟩ | ⟨-, hold⟩
    · cases heq
      exact AList.lookup_insert _
    · exact Table.lookup_insert_of_fresh hnew (h.indexed id' k' a' hold)
  fresh id' x hobject := by
    rcases Table.lookup_insert_iff.mp hobject with ⟨rfl, -⟩ | ⟨-, hold⟩
    · exact Nat.lt_succ_self _
    · exact Nat.lt_succ_of_lt (h.fresh id' x hold)

theorem Holds.create (h : r.Holds k id a) (hcoherent : r.Coherent) (hne : k ≠ k') (a' : α) : (r.create k' a').Holds k id a :=
  ⟨(AList.lookup_insert_ne hne).trans h.1, (AList.lookup_insert_ne (Nat.ne_of_lt (hcoherent.fresh _ _ h.2))).trans h.2⟩

/-! ## Writing -/

theorem Coherent.write (h : r.Coherent) (hold : r.Holds k id a) (a' : α) : (r.write id k a').Coherent where
  live k' id' hindex := by
    obtain ⟨b, hb⟩ := h.live k' id' hindex
    by_cases hid : id' = id
    · subst hid
      cases congrArg Prod.fst (Option.some.inj (hb.symm.trans hold.2))
      exact ⟨a', AList.lookup_insert _⟩
    · exact ⟨b, (AList.lookup_insert_ne hid).trans hb⟩
  indexed id' k' b hobject := by
    rcases Table.lookup_insert_iff.mp hobject with ⟨rfl, heq⟩ | ⟨-, hobject⟩
    · cases heq
      exact hold.1
    · exact h.indexed id' k' b hobject
  fresh id' x hobject := by
    rcases Table.lookup_insert_iff.mp hobject with ⟨rfl, -⟩ | ⟨-, hobject⟩
    · exact h.fresh id' _ hold.2
    · exact h.fresh id' x hobject

theorem Holds.write (h : r.Holds k id a) (a' : α) : (r.write id k a').Holds k id a' := ⟨h.1, AList.lookup_insert _⟩

theorem Holds.write_ne (h : r.Holds k id a) (h' : r.Holds k' id' a') (hne : k ≠ k') (b : α) : (r.write id' k' b).Holds k id a :=
  ⟨h.1, (AList.lookup_insert_ne (h'.key_ne h hne)).trans h.2⟩

omit [DecidableEq κ] in
theorem write_write (r : Registry κ α) (id : Nat) (k : κ) (a a' : α) : (r.write id k a).write id k a' = r.write id k a' := by
  simp only [write, AList.insert_insert]

/-! ## Removal -/

omit [DecidableEq κ] in
theorem free_write (r : Registry κ α) (id : Nat) (k : κ) (a : α) : (r.write id k a).free id = r.free id := by
  have hobjects : (r.objects.insert id (k, a)).erase id = r.objects.erase id :=
    AList.ext (List.kerase_cons_eq rfl)
  simp only [free, write, hobjects]

theorem Coherent.remove (h : r.Coherent) (hold : r.Holds k id a) : ((r.free id).unlink k).Coherent where
  live k' id' hindex := by
    have hne : k' ≠ k := by
      rintro rfl
      exact absurd hindex (by simp [unlink, AList.lookup_erase])
    have hindex : r.index.lookup k' = some id' := (AList.lookup_erase_ne hne).symm.trans hindex
    obtain ⟨b, hb⟩ := h.live k' id' hindex
    exact ⟨b, (AList.lookup_erase_ne (hold.key_ne ⟨hindex, hb⟩ hne)).trans hb⟩
  indexed id' k' b hobject := by
    have hne : id' ≠ id := by
      rintro rfl
      exact absurd hobject (by simp [free, unlink, AList.lookup_erase])
    have hobject : r.objects.lookup id' = some (k', b) := (AList.lookup_erase_ne hne).symm.trans hobject
    have hindex := h.indexed id' k' b hobject
    have hk : k' ≠ k := by
      rintro rfl
      exact hne (Option.some.inj (hindex.symm.trans hold.1))
    exact (AList.lookup_erase_ne hk).trans hindex
  fresh id' x hobject := by
    refine h.fresh id' x ?_
    by_cases hid : id' = id
    · subst hid
      exact absurd hobject (by simp [free, unlink, AList.lookup_erase])
    · exact (AList.lookup_erase_ne hid).symm.trans hobject

theorem Holds.remove_ne (h : r.Holds k id a) (h' : r.Holds k' id' a') (hne : k ≠ k') : ((r.free id').unlink k').Holds k id a :=
  ⟨(AList.lookup_erase_ne hne).trans h.1, (AList.lookup_erase_ne (h'.key_ne h hne)).trans h.2⟩

theorem lookup_unlink (r : Registry κ α) (k : κ) : (r.unlink k).index.lookup k = none := AList.lookup_erase _ _

theorem create_free_eq (r : Registry κ α) (k : κ) (a : α) (id : Nat) :
    (r.free id).create k a = ((r.free id).unlink k).create k a := by
  have hindex : r.index.insert k r.next = (r.index.erase k).insert k r.next := by
    refine AList.ext ?_
    rw [AList.entries_insert, AList.entries_insert]
    exact congrArg _ (List.kerase_of_notMem_keys (List.notMem_keys_kerase k r.index.nodupKeys)).symm
  simp only [create, free, unlink, hindex]

/-! ## Operations that keep a property of all objects -/

structure Sound (P : α → Prop) (r : Registry κ α) : Prop extends r.Coherent where
  all : ∀ id k a, r.objects.lookup id = some (k, a) → P a

/-- The registry stays sound, and the objects of all other keys remain. -/
structure Changes (P : α → Prop) (k : κ) (r r' : Registry κ α) : Prop where
  sound : r'.Sound P
  others : ∀ k' id a, k' ≠ k → r.Holds k' id a → r'.Holds k' id a

variable {P : α → Prop} {r' r'' : Registry κ α}

theorem Changes.trans (h : Changes P k r r') (h' : Changes P k r' r'') : Changes P k r r'' :=
  ⟨h'.sound, fun k' id a hne hold => h'.others k' id a hne (h.others k' id a hne hold)⟩

theorem Sound.refl (h : r.Sound P) (k : κ) : Changes P k r r := ⟨h, fun _ _ _ _ hold => hold⟩

theorem Sound.create (h : r.Sound P) (hnew : r.index.lookup k = none) (ha : P a) : Changes P k r (r.create k a) where
  sound :=
    { toCoherent := h.toCoherent.create hnew a
      all := fun id' k' a' hobject => by
        rcases Table.lookup_insert_iff.mp hobject with ⟨-, heq⟩ | ⟨-, hold⟩
        · cases heq
          exact ha
        · exact h.all id' k' a' hold }
  others _ _ _ hne hold := hold.create h.toCoherent hne a

theorem Sound.write (h : r.Sound P) (hold : r.Holds k id a) (ha : P a') : Changes P k r (r.write id k a') where
  sound :=
    { toCoherent := h.toCoherent.write hold a'
      all := fun id' k' b hobject => by
        rcases Table.lookup_insert_iff.mp hobject with ⟨-, heq⟩ | ⟨-, hold⟩
        · cases heq
          exact ha
        · exact h.all id' k' b hold }
  others _ _ _ hne hother := hother.write_ne hold hne a'

theorem Sound.remove (h : r.Sound P) (hold : r.Holds k id a) : Changes P k r ((r.free id).unlink k) where
  sound :=
    { toCoherent := h.toCoherent.remove hold
      all := fun id' k' b hobject => by
        refine h.all id' k' b ?_
        by_cases hid : id' = id
        · subst hid
          exact absurd hobject (by simp [free, unlink, AList.lookup_erase])
        · exact (AList.lookup_erase_ne hid).symm.trans hobject }
  others _ _ _ hne hother := hother.remove_ne hold hne

theorem Sound.replace (h : r.Sound P) (hold : r.Holds k id a) (ha : P a') : Changes P k r ((r.free id).create k a') := by
  rw [create_free_eq]
  have hremove := h.remove hold
  exact hremove.trans (hremove.sound.create (lookup_unlink _ k) ha)

end Registry

end Mediasoup.Lib
