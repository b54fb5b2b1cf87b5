import Mediasoup.Lib.Run
import Mediasoup.Stun.Packet

/-!
# The messages that `Parse` accepts

`Attributes` says what may follow the header: attributes that end on a multiple of 4 bytes, up to the last byte, with a
FINGERPRINT at the very end only and nothing else behind a MESSAGE-INTEGRITY. `Parse` accepts exactly these messages
(`parse_iff_wellFormed`) as long as positions fit into 16 bits; where they do not, it may read the same attributes for ever
(`parse_longMessage`).
-/

namespace Mediasoup.Stun.StunPacket

open Lib Utils Memory

def typeAt (data : List UInt8) (pos : Nat) : Attribute := .ofType (get2 data pos)

def lengthAt (data : List UInt8) (pos : Nat) : Nat := get2 data (pos + 2)

/-- The attributes of a fixed size have it, and ERROR-CODE has at least 4 bytes. -/
def Sized : Attribute → Nat → Prop
  | .priority, n | .nomination, n | .fingerprint, n => n = 4
  | .iceControlling, n | .iceControlled, n => n = 8
  | .useCandidate, n => n = 0
  | .messageIntegrity, n => n = 20
  | .errorCode, n => 4 ≤ n
  | .username, _ | .xorMappedAddress, _ | .other, _ => True

/-- The bytes from `pos` on are attributes, and a MESSAGE-INTEGRITY stands in front of them or not. -/
inductive Attributes (data : List UInt8) : Bool → Nat → Prop
  | done {integrity : Bool} : Attributes data integrity data.length
  | cons {pos : Nat} (hfits : pos + 4 + lengthAt data pos ≤ data.length)
      (hsized : Sized (typeAt data pos) (lengthAt data pos)) (htype : typeAt data pos ≠ .fingerprint)
      (hrest : Attributes data (typeAt data pos = .messageIntegrity) ((pos + 4 + lengthAt data pos + 3) / 4 * 4)) :
      Attributes data false pos
  | fingerprint {integrity : Bool} {pos : Nat} (htype : typeAt data pos = .fingerprint) (hlength : lengthAt data pos = 4)
      (hlast : pos + 8 = data.length)
      (hvalue : UInt32.ofNat (get4 (slice data (pos + 4) 4) 0) = getCRC32 (data.take pos) ^^^ 0x5354554e) :
      Attributes data integrity pos

structure WellFormed (data : List UInt8) : Prop where
  isStun : isStun data
  length : get2 data 2 = data.length - 20
  aligned : get2 data 2 % 4 = 0
  attributes : Attributes data false 20

/-! ## One attribute -/

section

variable {data : List UInt8} {st : Parsing} {pos rounds : Nat} {type : Attribute} {value : List UInt8}

theorem setAttribute_of_sized (st : Parsing) (pos : Nat) (h : Sized type value.length) : ∃ st', setAttribute st pos type value = .ok st' ∧
    st'.hasMessageIntegrity = (st.hasMessageIntegrity || type = .messageIntegrity) ∧
    st'.fingerprint = if type = .fingerprint then some (pos, .ofNat (get4 value 0)) else st.fingerprint := by
  cases type <;> simp only [Sized] at h <;> simp [setAttribute, h, Nat.not_lt.mpr]

theorem setAttribute_of_not_sized (h : ¬ Sized type value.length) :
    setAttribute st pos type value = .error (.discarded (.lengthOf type)) := by
  cases type <;> simp only [Sized, not_true_eq_false, not_le] at h <;> simp [setAttribute, h]

theorem attributes_iff {integrity : Bool} (hlt : pos < data.length) (hpos : pos % 4 = 0) : Attributes data integrity pos ↔
    pos + 4 + lengthAt data pos ≤ data.length ∧ Sized (typeAt data pos) (lengthAt data pos) ∧
      if typeAt data pos = .fingerprint then (pos + 4 + lengthAt data pos + 3) / 4 * 4 = data.length ∧
        UInt32.ofNat (get4 (slice data (pos + 4) (lengthAt data pos)) 0) = getCRC32 (data.take pos) ^^^ 0x5354554e
      else integrity = false ∧
        Attributes data (typeAt data pos = .messageIntegrity) ((pos + 4 + lengthAt data pos + 3) / 4 * 4) := by
  constructor
  · intro h
    cases h with
    | done => exact absurd hlt (Nat.lt_irrefl _)
    | cons hfits hsized htype hrest => exact ⟨hfits, hsized, by rw [if_neg htype]; exact ⟨rfl, hrest⟩⟩
    | fingerprint htype hlength hlast hvalue =>
      rw [if_pos htype, htype, hlength]
      exact ⟨by omega, rfl, by omega, hvalue⟩
  · rintro ⟨hfits, hsized, h⟩
    split at h
    case isTrue htype =>
      rw [htype] at hsized
      obtain ⟨hlast, hvalue⟩ := h
      rw [hsized] at hfits hlast hvalue
      exact .fingerprint htype hsized (by omega) hvalue
    case isFalse htype =>
      obtain ⟨rfl, hrest⟩ := h
      exact .cons hfits hsized htype hrest

/-- `x` returns if and only if `P`, and it comes to an end. -/
def ReturnsIff (P : Prop) (x : Except Failure StunPacket) : Prop := Ends (fun _ => P) (fun e => e ≠ .endless ∧ ¬ P) x

/-- The loop from `pos`, and the check behind it. -/
def finish (data : List UInt8) (rounds pos : Nat) (st : Parsing) : Except Failure StunPacket := do
  let (pos, st) ← readAttributes data rounds pos st
  checkFingerprint data pos st

theorem finish_of_le (h : pos + 4 ≤ data.length) (hfits : pos + 4 + lengthAt data pos ≤ data.length) :
    finish data (rounds + 1) pos st =
      readAttribute st pos (typeAt data pos) (slice data (pos + 4) (lengthAt data pos)) >>= fun st =>
        finish data rounds (padTo4Bytes ((pos + 4 + lengthAt data pos) % 65536)) st := by
  rw [finish, readAttributes, if_pos h]
  dsimp only [lengthAt, typeAt] at hfits ⊢
  rw [if_neg (Nat.not_lt.mpr hfits)]
  cases readAttribute st pos (.ofType (get2 data pos)) (slice data (pos + 4) (get2 data (pos + 2))) <;> rfl

theorem finish_of_lt (h : pos + 4 ≤ data.length) (hlong : data.length < pos + 4 + lengthAt data pos) :
    finish data (rounds + 1) pos st = .error (.discarded .attributeLength) := by
  rw [finish, readAttributes, if_pos h]
  dsimp only [lengthAt] at hlong ⊢
  rw [if_pos hlong]
  rfl

theorem finish_at_end : finish data (rounds + 1) data.length st = checkFingerprint data data.length st := by
  rw [finish, readAttributes, if_neg (by omega)]
  rfl

/-! ## The loop -/

theorem finish_after_fingerprint {fingerprintAttrPos : Nat} {fingerprint : UInt32}
    (hst : st.fingerprint = some (fingerprintAttrPos, fingerprint)) (hpos : pos % 4 = 0) (hlen : data.length % 4 = 0)
    (hle : pos ≤ data.length) :
    ReturnsIff (pos = data.length ∧ fingerprint = getCRC32 (data.take fingerprintAttrPos) ^^^ 0x5354554e)
      (finish data (rounds + 1) pos st) := by
  rcases Nat.lt_or_eq_of_le hle with hlt | rfl
  · have hnot (Q : Prop) : ¬ (pos = data.length ∧ Q) := fun h => absurd h.1 hlt.ne
    rcases Nat.lt_or_ge data.length (pos + 4 + lengthAt data pos) with hlong | hfits
    · rw [finish_of_lt (by omega) hlong]
      exact ⟨nofun, hnot _⟩
    · rw [finish_of_le (by omega) hfits, readAttribute, if_pos (by rw [hst]; rfl)]
      exact ⟨nofun, hnot _⟩
  rw [finish_at_end, checkFingerprint, if_neg (not_not.mpr rfl), hst]
  dsimp only
  split
  case isTrue hne => exact ⟨nofun, fun h => hne h.2⟩
  case isFalse heq => exact ⟨rfl, not_not.mp heq⟩

theorem finish_spec (hlen : data.length % 4 = 0) (hmax : data.length < 65536) : ∀ (rounds pos : Nat) (st : Parsing),
    st.fingerprint = none → pos % 4 = 0 → pos ≤ data.length → data.length < pos + 4 * rounds →
    ReturnsIff (Attributes data st.hasMessageIntegrity pos) (finish data rounds pos st)
  | 0, pos, st, _, _, hle, hrounds => by omega
  | rounds + 1, pos, st, hst, hpos, hle, hrounds => by
    rcases Nat.lt_or_eq_of_le hle with hlt | rfl
    · rw [attributes_iff hlt hpos]
      rcases Nat.lt_or_ge data.length (pos + 4 + lengthAt data pos) with hlong | hfits
      · rw [finish_of_lt (by omega) hlong]
        exact ⟨by rintro ⟨⟩, fun h => absurd h.1 (Nat.not_le.mpr hlong)⟩
      have hvalue : (slice data (pos + 4) (lengthAt data pos)).length = lengthAt data pos := by
        rw [slice, List.length_take, List.length_drop]
        omega
      have hnext : padTo4Bytes ((pos + 4 + lengthAt data pos) % 65536) = (pos + 4 + lengthAt data pos + 3) / 4 * 4 := by
        rw [Nat.mod_eq_of_lt (by omega), padTo4Bytes_eq (by omega)]
      have hread (type : Attribute) (value : List UInt8) : readAttribute st pos type value =
          if st.hasMessageIntegrity ∧ type ≠ .fingerprint then .error (.discarded .afterMessageIntegrity)
          else setAttribute st pos type value := by
        rw [readAttribute, hst]
        rfl
      rw [finish_of_le (by omega) hfits, hread, hnext]
      by_cases hintegrity : st.hasMessageIntegrity ∧ typeAt data pos ≠ .fingerprint
      · rw [if_pos hintegrity, if_neg hintegrity.2]
        exact ⟨by rintro ⟨⟩, fun h => Bool.false_ne_true (h.2.2.1.symm.trans hintegrity.1)⟩
      rw [if_neg hintegrity]
      by_cases hsized : Sized (typeAt data pos) (lengthAt data pos)
      · obtain ⟨st', hset, hintegrity', hfingerprint⟩ := setAttribute_of_sized st pos (hvalue.symm ▸ hsized)
        rw [hset, and_iff_right hfits, and_iff_right hsized]
        by_cases htype : typeAt data pos = .fingerprint
        · rw [if_pos htype] at hfingerprint ⊢
          obtain ⟨rounds, rfl⟩ : ∃ r, rounds = r + 1 := ⟨rounds - 1, by omega⟩
          exact finish_after_fingerprint hfingerprint (by omega) hlen (by omega)
        have hnone : st.hasMessageIntegrity = false := by
          by_contra hsome
          exact hintegrity ⟨by simpa using hsome, htype⟩
        rw [if_neg htype, hst] at hfingerprint
        rw [hnone, Bool.false_or] at hintegrity'
        rw [if_neg htype, ← hintegrity', and_iff_right hnone]
        exact finish_spec hlen hmax rounds _ st' hfingerprint (by omega) (by omega) (by omega)
      · rw [setAttribute_of_not_sized (hvalue.symm ▸ hsized)]
        exact ⟨by rintro ⟨⟩, fun h => hsized h.2.1⟩
    · rw [finish_at_end, checkFingerprint, if_neg (not_not.mpr rfl), hst]
      exact .done

theorem parse_eq_finish (hstun : isStun data) (hlength : get2 data 2 = data.length - 20) (haligned : get2 data 2 % 4 = 0) :
    parse data = finish data data.length 20 { packet := ofHeader data } := by
  rw [parse, if_neg (not_not.mpr hstun), if_neg (not_or.mpr ⟨not_not.mpr hlength, not_not.mpr haligned⟩)]
  rfl

end

/-- **`Parse`** comes to an end on every message of less than 65536 bytes, and returns a packet exactly if it is well formed. -/
theorem parse_iff_wellFormed (data : List UInt8) (hmax : data.length < 65536) :
    parse data ≠ .error .endless ∧ ((∃ p, parse data = .ok p) ↔ WellFormed data) := by
  by_cases hheader : isStun data ∧ get2 data 2 = data.length - 20 ∧ get2 data 2 % 4 = 0
  · obtain ⟨hstun, hlength, haligned⟩ := hheader
    have hsize : 20 ≤ data.length := by
      simp only [isStun, Bool.and_eq_true, decide_eq_true_eq] at hstun
      exact hstun.1.1
    have hrest := finish_spec (by omega) hmax data.length 20 { packet := ofHeader data } rfl rfl hsize (by omega)
    rw [parse_eq_finish hstun hlength haligned]
    cases hfinish : finish data data.length 20 { packet := ofHeader data } with
    | error e =>
      rw [hfinish] at hrest
      exact ⟨fun h => hrest.1 (Except.error.inj h), nofun, fun h => absurd h.attributes hrest.2⟩
    | ok p =>
      rw [hfinish] at hrest
      exact ⟨nofun, fun _ => ⟨hstun, hlength, haligned, hrest⟩, fun _ => ⟨p, rfl⟩⟩
  · have hnot : ¬ WellFormed data := fun h => hheader ⟨h.isStun, h.length, h.aligned⟩
    have hdiscarded : ∃ why, parse data = .error (.discarded why) := by
      rw [parse]
      split
      · exact ⟨_, rfl⟩
      · rw [if_pos (by tauto)]
        exact ⟨_, rfl⟩
    obtain ⟨why, hdiscarded⟩ := hdiscarded
    rw [hdiscarded]
    exact ⟨nofun, nofun, fun h => absurd h hnot⟩

def useCandidateRequest : List UInt8 :=
  [0, 1, 0, 4, 0x21, 0x12, 0xA4, 0x42, 0, 0, 0, 0, 0, 0, 0, 0, 0, 0, 0, 0, 0, 0x25, 0, 0]

theorem useCandidateRequest_wellFormed : WellFormed useCandidateRequest := by
  refine (parse_iff_wellFormed useCandidateRequest (by decide)).2.mp ?_
  have hok : (parse useCandidateRequest).toOption.isSome := by decide +kernel
  cases hparse : parse useCandidateRequest with
  | error e => simp [hparse, Except.toOption] at hok
  | ok p => exact ⟨p, rfl⟩

/-- A message of 65552 bytes with a single attribute: it ends where the position is 16 again, in front of it. -/
def longMessage : List UInt8 :=
  [0, 1, 0xFF, 0xFC, 0x21, 0x12, 0xA4, 0x42, 0, 0, 0, 0, 0, 0, 0, 0, 0, 0, 0, 0, 0, 0, 0xFF, 0xF8] ++ List.replicate 65528 0

def emptyErrorCode : List UInt8 :=
  [1, 0x11, 0, 4, 0x21, 0x12, 0xA4, 0x42, 0, 0, 0, 0, 0, 0, 0, 0, 0, 0, 0, 0, 0, 0x09, 0, 0]

theorem length_longMessage : longMessage.length = 65552 := by
  rw [longMessage, List.length_append, List.length_replicate]
  rfl

theorem finish_longMessage (packet : StunPacket) : ∀ rounds,
    finish longMessage rounds 16 { packet } = .error .endless ∧ finish longMessage rounds 20 { packet } = .error .endless
  | 0 => ⟨rfl, rfl⟩
  | rounds + 1 => by
    have hstep {pos n : Nat} (htype : typeAt longMessage pos = .other)
        (hfits : pos + 4 + lengthAt longMessage pos ≤ longMessage.length)
        (hnext : padTo4Bytes ((pos + 4 + lengthAt longMessage pos) % 65536) = n) :
        finish longMessage (rounds + 1) pos { packet } = finish longMessage rounds n { packet } := by
      rw [finish_of_le (by omega) hfits, htype, hnext]
      rfl
    have h16 : lengthAt longMessage 16 = 0 := rfl
    have h20 : lengthAt longMessage 20 = 65528 := rfl
    obtain ⟨hat16, hat20⟩ := finish_longMessage packet rounds
    constructor
    · rw [hstep (n := 20) (by decide +kernel) (by rw [length_longMessage, h16]; decide) (by rw [h16]; decide), hat20]
    · rw [hstep (n := 16) (by decide +kernel) (by rw [length_longMessage, h20]) (by rw [h20]; decide), hat16]

/-- `Parse` discards a message for an ERROR-CODE that is too short, and reads the attribute of a long message for ever. -/
theorem parse_longMessage :
    parse emptyErrorCode = .error (.discarded (.lengthOf .errorCode)) ∧ parse longMessage = .error .endless := by
  refine ⟨by decide +kernel, ?_⟩
  have hstun : isStun longMessage := by
    rw [isStun, length_longMessage]
    rfl
  rw [parse_eq_finish hstun (by rw [length_longMessage]; rfl) rfl]
  exact (finish_longMessage _ _).2

end Mediasoup.Stun.StunPacket
