import Mediasoup.Lib.Run
import Mediasoup.Stun.Attributes

/-!
# Checking the credentials of a STUN packet

`CheckAuthentication` rewrites the length field of the received bytes for the time of the digest. `Parse` has checked that
field, so that what is restored is what was there: the packet is left as it was (`checkAuthentication_snd`), and the result
of a check does not depend on those before it (`checks_eq_map`).
-/

namespace Mediasoup.Stun.StunPacket

open Lib Utils

variable {data : List UInt8}

theorem setLength_setLength (h : 4 ≤ data.length) (n : Nat) : setLength (setLength data n) (get2 data 2) = data := by
  obtain ⟨b₀, b₁, b₂, b₃, rest, rfl⟩ : ∃ b₀ b₁ b₂ b₃ rest, data = b₀ :: b₁ :: b₂ :: b₃ :: rest := by
    rcases data with _ | ⟨b₀, _ | ⟨b₁, _ | ⟨b₂, _ | ⟨b₃, rest⟩⟩⟩⟩
    · simp at h
    · simp at h
    · simp at h
    · simp at h
    · exact ⟨b₀, b₁, b₂, b₃, rest, rfl⟩
  show [b₀, b₁] ++ (set2Bytes (get2Bytes b₂ b₃) ++ rest) = _
  rw [set2Bytes_get2Bytes]
  rfl

structure Intact (p : StunPacket) : Prop where
  size : p.size = p.data.length
  header : 20 ≤ p.data.length
  length : get2 p.data 2 = p.size - 20

def SameData (q q' : StunPacket) : Prop := q'.data = q.data ∧ q'.size = q.size

/-- The setters of the attributes leave the bytes alone. -/
theorem sameData_set (q : StunPacket) : (∀ v, q.SameData (q.setUsername v)) ∧ (∀ v, q.SameData (q.setPriority v)) ∧
    (∀ v, q.SameData (q.setIceControlling v)) ∧ (∀ v, q.SameData (q.setIceControlled v)) ∧
    (∀ v, q.SameData (q.setNomination v)) ∧ ∀ v, q.SameData (q.setErrorCode v) := by
  refine ⟨?_, ?_, ?_, ?_, ?_, ?_⟩ <;> exact fun v => ⟨rfl, rfl⟩

variable {st st' : Parsing} {pos : Nat}

theorem setAttribute_data {type : Attribute} {value : List UInt8}
    (h : setAttribute st pos type value = .ok st') : st.packet.SameData st'.packet := by
  obtain ⟨husername, hpriority, hcontrolling, hcontrolled, hnomination, herror⟩ := sameData_set st.packet
  cases type with
  | username =>
    rw [← Except.ok.inj h]
    exact husername _
  | priority | iceControlling | iceControlled | nomination | errorCode =>
    rw [of_ite_eq_ok h]
    first | exact hpriority _ | exact hcontrolling _ | exact hcontrolled _ | exact hnomination _ | exact herror _
  | useCandidate | messageIntegrity | fingerprint =>
    rw [of_ite_eq_ok h]
    exact ⟨rfl, rfl⟩
  | xorMappedAddress | other =>
    rw [← Except.ok.inj h]
    exact ⟨rfl, rfl⟩

theorem readAttribute_data {type : Attribute} {value : List UInt8}
    (h : readAttribute st pos type value = .ok st') : st.packet.SameData st'.packet := by
  unfold readAttribute at h
  split at h
  · cases h
  · split at h
    · cases h
    · exact setAttribute_data h

theorem readAttributes_data {rounds pos pos' : Nat}
    (h : readAttributes data rounds pos st = .ok (pos', st')) : st.packet.SameData st'.packet := by
  induction rounds generalizing pos st with
  | zero => cases h
  | succ rounds ih =>
    simp only [readAttributes] at h
    split at h
    · split at h
      · cases h
      obtain ⟨st₁, hread, h⟩ := exists_of_bind_eq_ok h
      obtain ⟨hdata, hsize⟩ := readAttribute_data hread
      obtain ⟨hdata', hsize'⟩ := ih h
      exact ⟨hdata'.trans hdata, hsize'.trans hsize⟩
    · cases h
      exact ⟨rfl, rfl⟩

variable {q : StunPacket}

theorem checkFingerprint_eq_ok {st : Parsing}
    (h : checkFingerprint data pos st = .ok q) : q = st.packet := by
  unfold checkFingerprint at h
  split at h
  · cases h
  split at h
  · cases h
    rfl
  split at h
  · cases h
  · cases h
    rfl

theorem intact_of_parse (h : parse data = .ok q) : q.Intact := by
  unfold parse at h
  split at h
  · cases h
  rename_i hstun
  split at h
  · cases h
  obtain ⟨⟨pos, st⟩, hread, h⟩ := exists_of_bind_eq_ok h
  obtain ⟨hdata, hsize⟩ := readAttributes_data hread
  rw [checkFingerprint_eq_ok h]
  have hstun : 20 ≤ data.length := by
    simp only [isStun, Bool.and_eq_true, decide_eq_true_eq, not_not] at hstun
    exact hstun.1.1
  refine ⟨hsize.trans (congrArg _ hdata).symm, ?_, ?_⟩
  · rw [hdata]
    exact hstun
  · rw [hdata, hsize]
    show get2 data 2 = data.length - 20
    omega

theorem checkAuthentication_snd (hmac : HmacSha1) (hq : q.Intact) (localUsername localPassword : List UInt8) :
    (q.checkAuthentication hmac localUsername localPassword).2 = q := by
  have hcheck : ∀ o, (q.checkMessageIntegrity hmac o localPassword).2 = q := by
    intro o
    unfold checkMessageIntegrity
    by_cases hfp : q.hasFingerprint = true
    · simp only [if_pos hfp]
      rw [← hq.length, setLength_setLength (by have := hq.header; omega)]
    · simp only [if_neg hfp]
  unfold checkAuthentication
  split
  · split
    · rfl
    split
    · rfl
    · split
      · rfl
      · exact hcheck _
  · split
    · rfl
    split
    · rfl
    · split
      · rfl
      · exact hcheck _
  · rfl
  · rfl

/-- Checks one after the other, each on the packet as the one before left it. -/
def checks (hmac : HmacSha1) : StunPacket → List (List UInt8 × List UInt8) → List Authentication
  | _, [] => []
  | q, c :: cs =>
    let r := q.checkAuthentication hmac c.1 c.2
    r.1 :: checks hmac r.2 cs

theorem checks_eq_map (hmac : HmacSha1) (hq : q.Intact) (cs : List (List UInt8 × List UInt8)) :
    checks hmac q cs = cs.map fun c => (q.checkAuthentication hmac c.1 c.2).1 := by
  induction cs with
  | nil => rfl
  | cons c cs ih =>
    rw [checks, checkAuthentication_snd hmac hq, ih]
    rfl

theorem isFor_append (u x : List UInt8) : isFor (u ++ colon :: x) u = true := by
  have hlen : u.length < (u ++ colon :: x).length := by
    rw [List.length_append, List.length_cons]
    omega
  have hcolon : (u ++ colon :: x)[u.length]? = some colon := by
    rw [List.getElem?_append_right (Nat.le_refl _), Nat.sub_self]
    rfl
  simp only [isFor, hlen, hcolon, List.take_left, decide_true, Bool.and_self]

end Mediasoup.Stun.StunPacket
