import Mediasoup.Ortc.PayloadTypes

/-!
# The SSRCs of consumers

The only encoding of a consumer has an SSRC and the next one for RTX. The encodings of a pipe consumer have the SSRCs from one
random base on, and those for RTX from another one: `unambiguous_pipeEncodings` says which bases keep them apart, and
`consumers_unambiguous_iff` that these are the draws for which both functions return different SSRCs.
-/

namespace Mediasoup.Ortc

open Lib List

/-- What `generateRandomNumber` returns: `randomInt(100_000_000, 999_999_999)`. -/
structure Draw where
  value : Int
  lower : 100000000 ≤ value
  upper : value < 999999999

def ssrcs (encodings : List RtpEncodingParameters) : List Int :=
  encodings.flatMap fun encoding => encoding.ssrc.toList ++ encoding.rtx.toList

/-- All SSRCs are different, and 32 bits hold them. -/
structure Unambiguous (encodings : List RtpEncodingParameters) : Prop where
  nodup : (ssrcs encodings).Nodup
  bits : ∀ ssrc ∈ ssrcs encodings, 0 ≤ ssrc ∧ ssrc < 2 ^ 32

/-- The `n` SSRCs from each of the bases on are others, and 32 bits hold them. -/
structure Apart (n : Nat) (ssrc rtxSsrc : Int) : Prop where
  ranges : ssrc + n ≤ rtxSsrc ∨ rtxSsrc + n ≤ ssrc
  ssrc_bits : ssrc + n ≤ 2 ^ 32
  rtxSsrc_bits : rtxSsrc + n ≤ 2 ^ 32

theorem ssrcs_pipe_cons (rtx : Bool) (a b : Int) (encoding : RtpEncodingParameters) (encodings : List RtpEncodingParameters) :
    ssrcs (pipeEncodings rtx a b (encoding :: encodings)) =
      a :: ((if rtx then [b] else []) ++ ssrcs (pipeEncodings rtx (a + 1) (b + 1) encodings)) := by
  cases rtx <;> rfl

theorem mem_ssrcs_pipe {rtx : Bool} {x : Int} : ∀ {encodings : List RtpEncodingParameters} {a b : Int},
    x ∈ ssrcs (pipeEncodings rtx a b encodings) ↔ a ≤ x ∧ x < a + encodings.length ∨ rtx ∧ b ≤ x ∧ x < b + encodings.length
  | [], a, b => by
    have hempty (c : Int) : ¬ (c ≤ x ∧ x < c + ([] : List RtpEncodingParameters).length) := by
      simp only [length_nil]
      omega
    simp only [pipeEncodings, ssrcs, flatMap_nil, not_mem_nil, hempty, and_false, or_false]
  | encoding :: encodings, a, b => by
    rw [ssrcs_pipe_cons, mem_cons, mem_append, mem_ssrcs_pipe, length_cons]
    cases rtx with
    | false =>
      simp only [Bool.false_eq_true, if_false, not_mem_nil, false_and, false_or, or_false]
      omega
    | true =>
      simp only [if_true, mem_singleton, true_and]
      omega

theorem nodup_ssrcs_pipe {rtx : Bool} : ∀ {encodings : List RtpEncodingParameters} {a b : Int},
    (ssrcs (pipeEncodings rtx a b encodings)).Nodup ↔ (rtx → a + encodings.length ≤ b ∨ b + encodings.length ≤ a)
  | [], a, b => by
    simp only [pipeEncodings, ssrcs, flatMap_nil, nodup_nil, length_nil, true_iff]
    omega
  | encoding :: encodings, a, b => by
    rw [ssrcs_pipe_cons, length_cons]
    cases rtx with
    | false =>
      simp only [Bool.false_eq_true, if_false, nil_append, nodup_cons, mem_ssrcs_pipe, nodup_ssrcs_pipe, false_and,
        or_false, false_imp_iff, and_true, iff_true]
      omega
    | true =>
      simp only [if_true, singleton_append, nodup_cons, mem_cons, mem_ssrcs_pipe, nodup_ssrcs_pipe, true_and, true_imp_iff]
      omega

theorem unambiguous_pipeEncodings (rtx : Bool) (encodings : List RtpEncodingParameters) (a b : Draw)
    (h : Apart encodings.length a.value b.value) :
    Unambiguous (pipeEncodings rtx a.value b.value encodings) where
  nodup := nodup_ssrcs_pipe.mpr fun _ => h.ranges
  bits x hx := by
    have ha := a.lower
    have hb := b.lower
    have := h.ssrc_bits
    have := h.rtxSsrc_bits
    rcases mem_ssrcs_pipe.mp hx with hx | ⟨-, hx⟩ <;> omega

theorem apart_of_unambiguous {encodings : List RtpEncodingParameters} {a b : Draw}
    (h : Unambiguous (pipeEncodings true a.value b.value encodings)) : Apart encodings.length a.value b.value := by
  have ha := a.upper
  have hb := b.upper
  have hlast (x : Int) (hx : _) := (h.bits x (mem_ssrcs_pipe.mpr hx)).2
  refine ⟨nodup_ssrcs_pipe.mp h.nodup rfl, ?_, ?_⟩
  · by_contra hlong
    have := hlast (2 ^ 32) (.inl (by omega))
    omega
  · by_contra hlong
    have := hlast (2 ^ 32) (.inr ⟨rfl, by omega⟩)
    omega

theorem unambiguous_consumerEncoding (encodings : List RtpEncodingParameters) (rtx : Bool) (a : Draw) :
    Unambiguous [consumerEncoding encodings rtx a.value] := by
  have hlower := a.lower
  have hupper := a.upper
  have hssrcs : ssrcs [consumerEncoding encodings rtx a.value] = a.value :: if rtx then [a.value + 1] else [] := by
    cases rtx <;> rfl
  constructor
  · rw [hssrcs]
    cases rtx <;> simp
  · rw [hssrcs]
    intro x hx
    cases rtx with
    | false =>
      simp only [Bool.false_eq_true, if_false, mem_singleton] at hx
      omega
    | true =>
      simp only [if_true, mem_cons, not_mem_nil, or_false] at hx
      omega

/-- **The SSRCs of consumers** are different 32-bit values exactly if the two bases are at least as far apart as there are
encodings, and 32 bits hold the last ones. -/
theorem consumers_unambiguous_iff (consumable : RtpParameters) (draws : Nat → Draw) :
    Unambiguous (getPipeConsumerRtpParameters consumable true fun i => (draws i).value).encodings ∧
      (∀ h264 remote pipe enableRtx consumer,
        getConsumerRtpParameters h264 consumable remote pipe enableRtx (fun i => (draws i).value) = .ok consumer →
          Unambiguous consumer.encodings) ↔
    Apart consumable.encodings.length (draws 0).value (draws 1).value := by
  constructor
  · rintro ⟨hpipe, -⟩
    exact apart_of_unambiguous hpipe
  · intro h
    refine ⟨unambiguous_pipeEncodings true _ _ _ h, fun h264 remote pipe enableRtx consumer hconsumer => ?_⟩
    obtain ⟨-, -, -, rtxSupported, -, -, hencodings⟩ := getConsumerRtpParameters_eq_ok hconsumer
    rw [hencodings]
    cases pipe with
    | false => exact unambiguous_consumerEncoding _ _ _
    | true => exact unambiguous_pipeEncodings _ _ _ _ h

theorem same_base_collides : ¬ Unambiguous
    (getPipeConsumerRtpParameters { codecs := [], encodings := [{ ssrc := some 1 }] } true fun _ =>
      (⟨100000000, by decide, by decide⟩ : Draw).value).encodings :=
  fun h => absurd h.nodup (by decide)

end Mediasoup.Ortc
