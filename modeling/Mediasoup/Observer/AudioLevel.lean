import Mathlib.Algebra.Order.Ring.Nat
import Mathlib.Data.List.Sort
import Mediasoup.Lib.Run
import Mediasoup.Lib.Table

/-!
# The loudest producers

`AudioLevelObserver` adds up the volumes of the packets of every producer (in -dBov) for an interval, and then tells the loudest
producers by their averages (`Update`). The sum has 16 bits, which 517 packets can fill: a silent producer may come out as the
loudest one (`sum_wraps`). The intervals of a producer begin when the timer fires, when the observer is paused, and when the
producer is added.
-/

namespace Mediasoup.Observer

open List Lib

structure DBovs where
  totalSum : Nat := 0
  count : Nat := 0

def DBovs.add (d : DBovs) (volume : Fin 128) : DBovs :=
  { totalSum := (d.totalSum + volume) % 2 ^ 16, count := d.count + 1 }

/-- `-1 * static_cast<int8_t>(std::lround(totalSum / count))`, a quotient of integers. -/
def DBovs.avgDBov (d : DBovs) : Int := -1 * Int.bmod (d.totalSum / d.count : Nat) 256

theorem DBovs.avgDBov_eq {d : DBovs} (hle : d.totalSum / d.count ≤ 127) : d.avgDBov = -(d.totalSum / d.count : Nat) := by
  unfold avgDBov
  generalize d.totalSum / d.count = average at hle ⊢
  have hbmod : Int.bmod average 256 = average := Int.bmod_eq_of_le (by omega) (by omega)
  omega

/-- `mapProducerDBovs` is given by its keys and what it maps them to. -/
structure AudioLevelObserver (π : Type) where
  maxEntries : Nat
  threshold : Int
  paused : Bool := false
  producers : List π := []
  dBovs : π → DBovs := fun _ => {}
  silence : Bool := true

inductive Notification (π : Type)
  | volumes (data : List (Int × π))
  | silence

/-- An `std::out_of_range`, which nobody catches. -/
inductive UnknownProducer
  | outOfRange
  deriving DecidableEq

namespace AudioLevelObserver

variable {π : Type} [DecidableEq π] (o : AudioLevelObserver π)

def addProducer (p : π) : AudioLevelObserver π :=
  if p ∈ o.producers then o else { o with producers := p :: o.producers, dBovs := Function.update o.dBovs p {} }

def removeProducer (p : π) : AudioLevelObserver π := { o with producers := o.producers.filter (· ≠ p) }

/-- The volume is what `ReadSsrcAudioLevel` reads. -/
def receiveRtpPacket (p : π) : Option (Fin 128) → Except UnknownProducer (AudioLevelObserver π)
  | none => .ok o
  | some volume =>
    if o.paused then .ok o
    else if p ∈ o.producers then .ok { o with dBovs := Function.update o.dBovs p ((o.dBovs p).add volume) }
    else .error .outOfRange

def resetMapProducerDBovs : AudioLevelObserver π := { o with dBovs := fun _ => {} }

def pause : AudioLevelObserver π × Option (Notification π) :=
  if o.paused then (o, none)
  else ({ o.resetMapProducerDBovs with paused := true, silence := true }, if o.silence then none else some .silence)

def resume : AudioLevelObserver π := { o with paused := false }

def entry (p : π) : Option (Int × π) :=
  let d := o.dBovs p
  if d.count < 10 then none else if d.avgDBov ≥ o.threshold then some (d.avgDBov, p) else none

/-- `mapDBovsProducer`, a multimap, in which equal keys stand in the order of their insertion. -/
def mapDBovsProducer (order : Order π) : List (Int × π) :=
  ((order.arrange o.producers).filterMap o.entry).insertionSort fun a b => a.1 ≤ b.1

def update (order : Order π) : AudioLevelObserver π × Option (Notification π) :=
  let mapDBovsProducer := o.mapDBovsProducer order
  if mapDBovsProducer ≠ [] then
    ({ o.resetMapProducerDBovs with silence := false }, some (.volumes (mapDBovsProducer.reverse.take o.maxEntries)))
  else ({ o.resetMapProducerDBovs with silence := true }, if o.silence then none else some .silence)

end AudioLevelObserver

inductive ObserverEvent (π : Type)
  /-- `AddProducer` of an audio producer, or `ProducerResumed` -/
  | addProducer (p : π)
  /-- `RemoveProducer`, or `ProducerPaused` -/
  | removeProducer (p : π)
  | packet (p : π) (volume : Option (Fin 128))
  | pause
  | resume
  | timer (order : Order π)

/-- An observer with the volumes of the packets of each producer in its interval. -/
structure VolumeTrace (π : Type) where
  observer : AudioLevelObserver π
  volumes : π → List (Fin 128) := fun _ => []

namespace VolumeTrace

variable {π : Type}

def sum (volumes : List (Fin 128)) : Nat := (volumes.map Fin.val).sum

def average (volumes : List (Fin 128)) : Int := -(sum volumes / volumes.length : Nat)

/-- The producers that should be told of, in any order. -/
def loud (t : VolumeTrace π) : List (Int × π) :=
  t.observer.producers.filterMap fun p =>
    if 10 ≤ (t.volumes p).length ∧ t.observer.threshold ≤ average (t.volumes p) then
      some (average (t.volumes p), p)
    else none

def Loudest (t : VolumeTrace π) (data : List (Int × π)) : Prop :=
  ∃ all : List (Int × π), all.Perm t.loud ∧ all.Pairwise (fun a b => b.1 ≤ a.1) ∧ data = all.take t.observer.maxEntries

/-- What `Update` should do: it uses the averages of the packets, and tells the loudest producers. -/
def Exact (t : VolumeTrace π) : Prop :=
  (∀ p ∈ t.observer.producers, 10 ≤ (t.volumes p).length → (t.observer.dBovs p).avgDBov = average (t.volumes p)) ∧
    ∀ order, match (t.observer.update order).2 with
      | some (.volumes data) => t.Loudest data
      | _ => t.loud = []

/-- What the 16 bits lose of the sum does not change the quotient, as if the sum fits. -/
def SumsKept (t : VolumeTrace π) : Prop :=
  ∀ p ∈ t.observer.producers, 10 ≤ (t.volumes p).length →
    sum (t.volumes p) / 2 ^ 16 * 2 ^ 16 + sum (t.volumes p) % 2 ^ 16 % (t.volumes p).length < (t.volumes p).length

def Inv (t : VolumeTrace π) : Prop :=
  ∀ p ∈ t.observer.producers, t.observer.dBovs p = ⟨sum (t.volumes p) % 2 ^ 16, (t.volumes p).length⟩

variable {t t' : VolumeTrace π} {p : π}

theorem Inv.add (h : t.Inv) (hp : p ∈ t.observer.producers) (v : Fin 128) :
    (t.observer.dBovs p).add v = ⟨sum (v :: t.volumes p) % 2 ^ 16, (v :: t.volumes p).length⟩ := by
  rw [h p hp, DBovs.add, Nat.mod_add_mod, Nat.add_comm]
  rfl

theorem sum_le (volumes : List (Fin 128)) : sum volumes ≤ 127 * volumes.length := by
  induction volumes with
  | nil => exact Nat.zero_le _
  | cons v volumes ih =>
    have hv := v.isLt
    simp only [sum, map_cons, sum_cons, length_cons] at ih ⊢
    omega

theorem Inv.avgDBov_eq (h : t.Inv) (hp : p ∈ t.observer.producers) :
    (t.observer.dBovs p).avgDBov = -(sum (t.volumes p) % 2 ^ 16 / (t.volumes p).length : Nat) := by
  have hmod : sum (t.volumes p) % 2 ^ 16 ≤ (t.volumes p).length * 127 := by
    rw [Nat.mul_comm]
    exact (Nat.mod_le _ _).trans (sum_le _)
  rw [h p hp, DBovs.avgDBov_eq (Nat.div_le_of_le_mul hmod)]

theorem mod_div_eq_iff {s m n : Nat} (hn : 0 < n) : s % m / n = s / n ↔ s / m * m + s % m % n < n := by
  have hsplit : s = s / m * m + s % m % n + s % m / n * n := by
    have hm := Nat.div_add_mod' s m
    have hn := Nat.div_add_mod' (s % m) n
    omega
  have hdiv : s / n = (s / m * m + s % m % n) / n + s % m / n := by
    rw [← Nat.add_mul_div_right _ _ hn, ← hsplit]
  rw [hdiv, ← Nat.div_eq_zero_iff_lt hn]
  omega

theorem Inv.avgDBov_eq_iff (h : t.Inv) (hp : p ∈ t.observer.producers) (hpos : 0 < (t.volumes p).length) :
    (t.observer.dBovs p).avgDBov = average (t.volumes p) ↔
      sum (t.volumes p) / 2 ^ 16 * 2 ^ 16 + sum (t.volumes p) % 2 ^ 16 % (t.volumes p).length < (t.volumes p).length := by
  rw [h.avgDBov_eq hp, average, ← mod_div_eq_iff hpos]
  omega

theorem Inv.filterMap_entry (h : t.Inv) (hsums : t.SumsKept) : t.observer.producers.filterMap t.observer.entry = t.loud := by
  refine filterMap_congr fun p hp => ?_
  have hcount : (t.observer.dBovs p).count = (t.volumes p).length := congrArg DBovs.count (h p hp)
  rw [AudioLevelObserver.entry]
  simp only [hcount]
  by_cases hten : 10 ≤ (t.volumes p).length
  · rw [(h.avgDBov_eq_iff hp (by omega)).mpr (hsums p hp hten), if_neg (by omega)]
    simp only [hten, true_and, ge_iff_le]
  · rw [if_pos (by omega), if_neg fun hand => hten hand.1]

theorem Inv.exact_iff (h : t.Inv) : t.Exact ↔ t.SumsKept := by
  constructor
  · intro hexact p hp hten
    exact (h.avgDBov_eq_iff hp (by omega)).mp (hexact.1 p hp hten)
  · intro hsums
    refine ⟨fun p hp hten => (h.avgDBov_eq_iff hp (by omega)).mpr (hsums p hp hten), fun order => ?_⟩
    have hperm : (t.observer.mapDBovsProducer order).Perm t.loud := by
      rw [← h.filterMap_entry hsums]
      exact (perm_insertionSort _ _).trans ((order.perm _).filterMap _)
    rw [AudioLevelObserver.update]
    simp only
    split_ifs with hne
    · refine ⟨_, (reverse_perm _).trans hperm, pairwise_reverse.mpr ?_, rfl⟩
      exact pairwise_insertionSort _ _
    all_goals
      rw [not_not.mp hne] at hperm
      exact hperm.nil_eq.symm

/-! ## Runs -/

variable [DecidableEq π]

def step (t : VolumeTrace π) : ObserverEvent π → Except UnknownProducer (VolumeTrace π)
  | .addProducer p => .ok
    { observer := t.observer.addProducer p
      volumes := if p ∈ t.observer.producers then t.volumes else Function.update t.volumes p [] }
  | .removeProducer p => .ok { t with observer := t.observer.removeProducer p }
  | .packet p volume => (t.observer.receiveRtpPacket p volume).map fun observer =>
    { observer
      volumes := match volume with
        | none => t.volumes
        | some v => if t.observer.paused then t.volumes else Function.update t.volumes p (v :: t.volumes p) }
  | .pause => .ok { observer := t.observer.pause.1, volumes := if t.observer.paused then t.volumes else fun _ => [] }
  | .resume => .ok { t with observer := t.observer.resume }
  | .timer order => .ok { observer := (t.observer.update order).1, volumes := fun _ => [] }

theorem Inv.update (h : t.Inv) {q : π} {d : DBovs} {volumes : List (Fin 128)}
    (hd : d = ⟨sum volumes % 2 ^ 16, volumes.length⟩) (hq : q = p ∨ q ∈ t.observer.producers) :
    Function.update t.observer.dBovs p d q =
      ⟨sum (Function.update t.volumes p volumes q) % 2 ^ 16, (Function.update t.volumes p volumes q).length⟩ := by
  by_cases hqp : q = p
  · rw [hqp, Function.update_self, Function.update_self, hd]
  · rw [Function.update_of_ne hqp, Function.update_of_ne hqp]
    exact h q (hq.resolve_left hqp)

theorem Inv.step (h : t.Inv) {e : ObserverEvent π} (hs : t.step e = .ok t') : t'.Inv := by
  cases e with
  | addProducer p =>
    cases hs
    unfold Inv
    simp only [AudioLevelObserver.addProducer]
    by_cases hp : p ∈ t.observer.producers
    · simp only [if_pos hp]
      exact h
    · simp only [if_neg hp]
      exact fun q hq => h.update rfl (mem_cons.mp hq)
  | removeProducer p =>
    cases hs
    exact fun q hq => h q (mem_of_mem_filter hq)
  | packet p volume =>
    cases volume with
    | none =>
      cases hs
      exact h
    | some v =>
      simp only [VolumeTrace.step, AudioLevelObserver.receiveRtpPacket] at hs
      split_ifs at hs with hpaused hp
      · cases hs
        exact h
      · cases hs
        exact fun q hq => h.update (h.add hp v) (.inr hq)
      · cases hs
  | pause =>
    cases hs
    unfold Inv
    by_cases hpaused : t.observer.paused = true
    · simp only [AudioLevelObserver.pause, if_pos hpaused]
      exact h
    · simp only [AudioLevelObserver.pause, if_neg hpaused]
      exact fun _ _ => rfl
  | resume =>
    cases hs
    exact h
  | timer order =>
    cases hs
    unfold Inv
    simp only [AudioLevelObserver.update]
    split <;> exact fun _ _ => rfl

/-- **Every run of an observer**: in every state that is reached, the next update is exact if and only if the wraps of the sums
lose nothing of the averages. -/
theorem volumes_iff (maxEntries : Nat) (threshold : Int) (es : List (ObserverEvent π)) :
    EachStep step (fun _ _ t => t.Exact ↔ t.SumsKept) { observer := { maxEntries, threshold } } es :=
  eachStep_of_along (I := Inv) (C := fun _ _ => True) (fun _ _ _ h _ hs => ⟨(h.step hs).exact_iff, h.step hs⟩) es _
    (fun _ _ => rfl) (along_of_forall (fun _ _ => trivial) es _)

def silentPackets (n : Nat) : List (ObserverEvent Unit) := .addProducer () :: replicate n (.packet () (some 127))

/-- **517 packets of silence** are told as the loudest volume. -/
theorem sum_wraps : ∃ t, (silentPackets 517).foldlM step { observer := { maxEntries := 1, threshold := -80 } } = .ok t ∧
    ¬ t.Exact := by
  have hrun : ((silentPackets 517).foldlM step { observer := { maxEntries := 1, threshold := -80 } }).map
      (fun t => (t.observer.producers, (t.volumes ()).length, (t.observer.dBovs ()).avgDBov, average (t.volumes ()))) =
      .ok ([()], 517, 0, -127) := by decide +kernel
  cases hend : (silentPackets 517).foldlM step { observer := { maxEntries := 1, threshold := -80 } } with
  | error e =>
    rw [hend] at hrun
    cases hrun
  | ok t =>
    rw [hend] at hrun
    simp only [Except.map, Except.ok.injEq, Prod.mk.injEq] at hrun
    obtain ⟨hkeys, hcount, hused, hshould⟩ := hrun
    refine ⟨t, rfl, fun hexact => ?_⟩
    have haverage := hexact.1 () (hkeys ▸ mem_singleton_self ()) (hcount ▸ by decide)
    simp [hused, hshould] at haverage

end VolumeTrace

end Mediasoup.Observer
