import Mathlib.Data.List.Basic

/-!
# Streams of frames

A stream is cut into frames by a function that reads the size of the first frame off its beginning, as soon as there is enough of
it (`Framing`). `scan` takes complete frames off a stream up to the first one that is incomplete or larger than a limit. What
announces a frame does not depend on what follows, so a stream may be scanned in parts (`scan_append`).
-/

namespace Mediasoup.Lib

structure Framing (β : Type*) where
  announced : List β → Option Nat
  announced_pos : ∀ {s n}, announced s = some n → 0 < n
  announced_append : ∀ {s n} (t : List β), announced s = some n → announced (s ++ t) = some n

namespace Framing

variable {β : Type*} (f : Framing β) (limit : Nat)

def scan (s : List β) : List (List β) × List β :=
  match _h : f.announced s with
  | none => ([], s)
  | some n =>
    if _hn : n ≤ s.length ∧ n ≤ limit then
      let r := scan (s.drop n)
      (s.take n :: r.1, r.2)
    else ([], s)
termination_by s.length
decreasing_by
  have := f.announced_pos _h
  rw [List.length_drop]
  omega

variable {f limit} {s : List β} {n : Nat}

theorem scan_of_none (h : f.announced s = none) : f.scan limit s = ([], s) := by
  rw [scan]
  split
  · rfl
  · rename_i n hn
    simp [h] at hn

theorem scan_of_stop (h : f.announced s = some n) (hn : ¬ (n ≤ s.length ∧ n ≤ limit)) : f.scan limit s = ([], s) := by
  rw [scan]
  split
  · rfl
  rename_i m hm
  rw [h] at hm
  cases hm
  rw [dif_neg hn]

theorem scan_of_frame (h : f.announced s = some n) (hlen : n ≤ s.length) (hlimit : n ≤ limit) :
    f.scan limit s = (s.take n :: (f.scan limit (s.drop n)).1, (f.scan limit (s.drop n)).2) := by
  rw [scan]
  split
  · rename_i hnone
    simp [h] at hnone
  rename_i m hm
  rw [h] at hm
  cases hm
  rw [dif_pos ⟨hlen, hlimit⟩]

theorem stops_scan (s : List β) {n : Nat} (h : f.announced (f.scan limit s).2 = some n) :
    ¬ (n ≤ (f.scan limit s).2.length ∧ n ≤ limit) := by
  fun_induction scan f limit s with
  | case1 s hnone =>
    simp [hnone] at h
  | case2 s m hm hfits r ih => exact ih h
  | case3 s m hm hfits =>
    rw [hm] at h
    cases h
    exact hfits

/-- **Scanning in two parts**: what the first part leaves is scanned with the second one. -/
theorem scan_append (s t : List β) : f.scan limit (s ++ t) =
      ((f.scan limit s).1 ++ (f.scan limit ((f.scan limit s).2 ++ t)).1, (f.scan limit ((f.scan limit s).2 ++ t)).2) := by
  fun_induction scan f limit s with
  | case1 s hnone => rfl
  | case2 s m hm hfits r ih =>
    have hlen : m ≤ (s ++ t).length := by
      rw [List.length_append]
      omega
    rw [scan_of_frame (f.announced_append t hm) hlen hfits.2, List.take_append_of_le_length hfits.1,
      List.drop_append_of_le_length hfits.1, ih]
    rfl
  | case3 s m hm hfits => rfl

end Framing

end Mediasoup.Lib
