import Mediasoup.Stun.Authentication
import Mediasoup.Stun.Serialize

/-!
# Parsing what was serialized

`Parse` gives the packet back if the first byte of the type field tells it from other protocols (`parse_written`), and
`CheckAuthentication` accepts the credentials it was serialized with (`checkMessageIntegrity_received`).
-/

namespace Mediasoup.Stun

open Lib Utils StunPacket List Memory

namespace StunPacket

section

variable {p : StunPacket}

/-! ## What is read back -/

/-- The packet that `Parse` makes of the message: the attributes that are read back, and where MESSAGE-INTEGRITY stands. -/
def received (p : StunPacket) (message : List UInt8) : StunPacket where
  klass := p.klass
  method := p.method
  transactionId := p.transactionId
  data := message
  size := message.length
  username := p.username
  priority := p.priority
  iceControlling := p.iceControlling
  iceControlled := p.iceControlled
  hasUseCandidate := p.hasUseCandidate
  errorCode := if p.klass = .errorResponse then p.errorCode else 0
  messageIntegrity := if p.addMessageIntegrity then some (message.length - 28) else none
  hasFingerprint := true

/-- Reading the attributes leads from one state to another, wherever they stand. -/
def Reads (as : List Attr) (st st' : Parsing) : Prop := ∀ pos, readAll pos as st = .ok st'

theorem Reads.append {as bs : List Attr} {st₁ st₂ st₃ : Parsing} (h₁ : Reads as st₁ st₂) (h₂ : Reads bs st₂ st₃) :
    Reads (as ++ bs) st₁ st₃ := by
  intro pos
  rw [readAll_append, h₁]
  exact h₂ _

theorem reads_optional {c : Prop} {type : Attribute} {value : List UInt8} {as : List Attr} {q q' : StunPacket}
    (has : Optional c type value as) (hset : c → ∀ pos, setAttribute { packet := q } pos type value = .ok { packet := q' })
    (hsame : ¬ c → q' = q) : Reads as { packet := q } { packet := q' } := by
  intro pos
  obtain ⟨hc, a, rfl, rfl, rfl⟩ | ⟨hc, rfl⟩ := has
  · simp only [readAll, readAttribute]
    rw [if_neg (by simp), if_neg (by simp), hset hc pos]
    rfl
  · rw [hsame hc]
    rfl

theorem errorCodeValue_code (h : p.errorCode ≤ 25599) : UInt16.ofNat
    ((p.errorCodeValue.getD 2 0).toNat * 100 + (p.errorCodeValue.getD 3 0).toNat) = p.errorCode := by
  have hle : p.errorCode.toNat ≤ 25599 := UInt16.le_iff_toNat_le.mp h
  have hclass : (UInt8.ofNat (p.errorCode.toNat / 100 % 256)).toNat = p.errorCode.toNat / 100 := by
    rw [UInt8.toNat_ofNat']
    omega
  have hnumber : (UInt8.ofNat p.errorCode.toNat - UInt8.ofNat (p.errorCode.toNat / 100 % 256 * 100)).toNat =
      p.errorCode.toNat % 100 := by
    rw [UInt8.toNat_sub, UInt8.toNat_ofNat', UInt8.toNat_ofNat']
    omega
  have hcode : (p.errorCodeValue.getD 2 0).toNat * 100 + (p.errorCodeValue.getD 3 0).toNat = p.errorCode.toNat := by
    show (UInt8.ofNat (p.errorCode.toNat / 100 % 256)).toNat * 100 +
      (UInt8.ofNat p.errorCode.toNat - UInt8.ofNat (p.errorCode.toNat / 100 % 256 * 100)).toNat = _
    omega
  rw [hcode, UInt16.ofNat_toNat]

section

variable {as : List Attr} (q : StunPacket)

theorem reads_username (has : Optional (p.username ≠ []) .username p.username as) (hq : q.username = []) :
    Reads as { packet := q } { packet := q.setUsername p.username } :=
  reads_optional has (fun _ _ => rfl) fun hc => by rw [setUsername, not_not.mp hc, ← hq]

theorem reads_priority (has : Optional (p.priority ≠ 0) .priority (set4Bytes p.priority.toNat) as) (hq : q.priority = 0) :
    Reads as { packet := q } { packet := q.setPriority p.priority } := by
  refine reads_optional has (fun _ pos => ?_) fun hc => by rw [setPriority, not_not.mp hc, ← hq]
  have hvalue : UInt32.ofNat (get4 (set4Bytes p.priority.toNat) 0) = p.priority := by
    rw [← append_nil (set4Bytes _), get4_set4Bytes, Nat.mod_eq_of_lt p.priority.toNat_lt, UInt32.ofNat_toNat]
  rw [setAttribute, if_neg (fun hne => hne rfl), hvalue]

theorem ofNat_get8 (v : UInt64) : UInt64.ofNat (get8 (set8Bytes v.toNat) 0) = v := by
  rw [get8_set8Bytes v.toNat_lt, UInt64.ofNat_toNat]

theorem reads_iceControlling (has : Optional (p.iceControlling ≠ 0) .iceControlling (set8Bytes p.iceControlling.toNat) as)
    (hq : q.iceControlling = 0) :
    Reads as { packet := q } { packet := q.setIceControlling p.iceControlling } := by
  refine reads_optional has (fun _ pos => ?_) fun hc => by rw [setIceControlling, not_not.mp hc, ← hq]
  rw [setAttribute, if_neg (fun hne => hne rfl), ofNat_get8]

theorem reads_iceControlled (has : Optional (p.iceControlled ≠ 0) .iceControlled (set8Bytes p.iceControlled.toNat) as)
    (hq : q.iceControlled = 0) :
    Reads as { packet := q } { packet := q.setIceControlled p.iceControlled } := by
  refine reads_optional has (fun _ pos => ?_) fun hc => by rw [setIceControlled, not_not.mp hc, ← hq]
  rw [setAttribute, if_neg (fun hne => hne rfl), ofNat_get8]

theorem reads_useCandidate (has : Optional p.hasUseCandidate .useCandidate [] as) (hq : q.hasUseCandidate = false) :
    Reads as { packet := q } { packet := { q with hasUseCandidate := p.hasUseCandidate } } := by
  refine reads_optional has (fun hc pos => ?_) fun hc => by rw [Bool.eq_false_iff.mpr hc, ← hq]
  rw [setAttribute, if_neg (fun hne => hne rfl), hc]
  rfl

theorem reads_address (has : p.AddressAttr as) : Reads as { packet := q } { packet := q } := by
  intro pos
  obtain ⟨a, rfl, htype, -⟩ | ⟨-, rfl⟩ := has
  · rw [readAll, htype]
    rfl
  · rfl

theorem reads_errorCode (herror : p.errorCode ≤ 25599) (has : Optional p.addErrorCode .errorCode p.errorCodeValue as)
    (hq : q.errorCode = 0) :
    Reads as { packet := q }
      { packet := q.setErrorCode (if p.klass = .errorResponse then p.errorCode else 0) } := by
  refine reads_optional has (fun hc pos => ?_) fun hc => ?_
  · have hclass : p.klass = .errorResponse := (of_decide_eq_true hc).2
    rw [setAttribute, if_neg (show ¬ p.errorCodeValue.length < 4 from Nat.lt_irrefl 4), errorCodeValue_code herror, if_pos hclass]
  · have hzero : (if p.klass = .errorResponse then p.errorCode else 0) = q.errorCode := by
      rw [hq]
      split
      · rename_i hclass
        by_contra hne
        exact hc (decide_eq_true ⟨hne, hclass⟩)
      · rfl
    rw [hzero, setErrorCode]

end

def withBody (p q : StunPacket) : StunPacket :=
  { q with
    username := p.username
    priority := p.priority
    iceControlling := p.iceControlling
    iceControlled := p.iceControlled
    hasUseCandidate := p.hasUseCandidate
    errorCode := if p.klass = .errorResponse then p.errorCode else 0 }

theorem reads_body (herror : p.errorCode ≤ 25599) {body : List Attr} (hbody : p.Body body) (message : List UInt8) :
    Reads body { packet := ofHeader message } { packet := p.withBody (ofHeader message) } := by
  obtain ⟨_, _, _, _, _, _, _, rfl, h₁, h₂, h₃, h₄, h₅, h₆, h₇⟩ := hbody
  exact (reads_username _ h₁ rfl).append <| (reads_priority _ h₂ rfl).append <| (reads_iceControlling _ h₃ rfl).append <|
    (reads_iceControlled _ h₄ rfl).append <| (reads_useCandidate _ h₅ rfl).append <| (reads_address _ h₆).append <|
    reads_errorCode _ herror h₇ rfl

/-! ## The header -/

theorem typeField_lt : p.typeField < 16384 := by
  unfold typeField
  omega

theorem typeField_bits {high middle low c d : Nat} (hhigh : high < 32) (hmiddle : middle < 8) (hlow : low < 16)
    (hc : c < 2) (hd : d < 2) {t : Nat} (ht : t = high * 512 + middle * 32 + low + c * 256 + d * 16) :
    t % 16 = low ∧ t / 32 % 8 = middle ∧ t / 512 % 32 = high ∧ t / 256 % 2 = c ∧ t / 16 % 2 = d := by
  refine ⟨?_, ?_, ?_, ?_, ?_⟩ <;> omega

theorem typeField_parts (p : StunPacket) : p.typeField % 16 = p.method % 16 ∧ p.typeField / 32 % 8 = p.method / 16 % 8 ∧
      p.typeField / 512 % 32 = p.method / 128 % 32 ∧ p.typeField / 256 % 2 = p.klass.toNat / 2 % 2 ∧
      p.typeField / 16 % 2 = p.klass.toNat % 2 :=
  typeField_bits (Nat.mod_lt _ (by decide)) (Nat.mod_lt _ (by decide)) (Nat.mod_lt _ (by decide))
    (Nat.mod_lt _ (by decide)) (Nat.mod_lt _ (by decide)) rfl

theorem methodOf_typeField (hmethod : p.method < 4096) : methodOf p.typeField = p.method := by
  obtain ⟨hlow, hmiddle, hhigh, -, -⟩ := p.typeField_parts
  rw [methodOf, hlow, hmiddle, hhigh]
  omega

theorem classOf_typeField : classOf p.typeField = p.klass := by
  obtain ⟨-, -, -, hhigh, hlow⟩ := p.typeField_parts
  rw [classOf, hhigh, hlow]
  cases p.klass <;> rfl

theorem ofHeader_header (hmethod : p.method < 4096) (hid : p.transactionId.length = 12) (n : Nat) (rest : List UInt8) :
    ofHeader (header p.typeField n p.transactionId ++ rest) =
      { klass := p.klass, method := p.method, transactionId := p.transactionId
        data := header p.typeField n p.transactionId ++ rest
        size := (header p.typeField n p.transactionId ++ rest).length } := by
  have htype : get2 (header p.typeField n p.transactionId ++ rest) 0 = p.typeField := by
    have hlt := @typeField_lt p
    exact (get2_set2Bytes p.typeField _).trans (Nat.mod_eq_of_lt (by omega))
  have hid' : slice (header p.typeField n p.transactionId ++ rest) 8 12 = p.transactionId := by
    rw [← hid]
    exact @slice_append_left _ (set2Bytes p.typeField ++ (set2Bytes n ++ magicCookie)) p.transactionId rest
  rw [ofHeader, htype, hid', methodOf_typeField hmethod, classOf_typeField]

theorem get2_header {t n : Nat} (id rest : List UInt8) (hn : n < 65536) : get2 (header t n id ++ rest) 2 = n :=
  (get2Bytes_set2Bytes n).trans (Nat.mod_eq_of_lt hn)

theorem isStun_header {n : Nat} (hid : p.transactionId.length = 12) (rest : List UInt8) :
    isStun (header p.typeField n p.transactionId ++ rest) = decide (p.typeField / 256 < 3) := by
  have hlen : 20 ≤ (header p.typeField n p.transactionId ++ rest).length := by
    rw [length_append, length_header hid]
    omega
  have hfirst : ((header p.typeField n p.transactionId ++ rest).getD 0 0 < 3) ↔ p.typeField / 256 < 3 := by
    have hlt := @typeField_lt p
    show UInt8.ofNat (p.typeField / 256) < 3 ↔ _
    rw [UInt8.lt_iff_toNat_lt, UInt8.toNat_ofNat', Nat.mod_eq_of_lt (by omega)]
    rfl
  have hcookie : slice (header p.typeField n p.transactionId ++ rest) 4 4 = magicCookie := rfl
  simp only [isStun, hlen, hfirst, hcookie, decide_true, Bool.true_and, Bool.and_true]

/-! ## The message -/

theorem readAll_integrity {c : Bool} {digest : List UInt8} (hlen : digest.length = 20) {as : List Attr}
    (has : Optional c .messageIntegrity digest as) (pos : Nat) (q : StunPacket) (hq : q.messageIntegrity = none) :
    readAll pos as { packet := q } = .ok { packet := { q with messageIntegrity := if c then some (pos + 4) else none }
                                           hasMessageIntegrity := c } := by
  obtain ⟨hc, a, rfl, htype, rfl⟩ | ⟨hc, rfl⟩ := has
  · have hset : readAttribute { packet := q } pos .messageIntegrity a.value =
        .ok { packet := { q with messageIntegrity := some (pos + 4) }, hasMessageIntegrity := true } := by
      rw [readAttribute, if_neg (by simp), if_neg (by simp), setAttribute, if_neg (fun hne => hne hlen)]
      rfl
    rw [readAll, htype, hset, hc]
    rfl
  · rw [Bool.eq_false_iff.mpr hc]
    show Except.ok _ = Except.ok ({ packet := { q with messageIntegrity := none } } : Parsing)
    rw [← hq]

theorem readAll_fingerprint {st : Parsing} (hst : st.fingerprint = none) {a : Attr} (htype : a.type = .fingerprint)
    {v : UInt32} (hvalue : a.value = set4Bytes v.toNat) (pos : Nat) :
    readAll pos [a] st = .ok { st with fingerprint := some (pos, v), packet := { st.packet with hasFingerprint := true } } := by
  have hread : UInt32.ofNat (get4 (set4Bytes v.toNat) 0) = v := by
    rw [← append_nil (set4Bytes _), get4_set4Bytes, Nat.mod_eq_of_lt v.toNat_lt, UInt32.ofNat_toNat]
  have hset : readAttribute st pos .fingerprint (set4Bytes v.toNat) =
      .ok { st with fingerprint := some (pos, v), packet := { st.packet with hasFingerprint := true } } := by
    rw [readAttribute, hst, if_neg (by simp), if_neg (by simp), setAttribute, if_neg (fun hne => hne rfl), hread]
    rfl
  rw [readAll, htype, hvalue, hset]
  rfl

section

variable {hmac : HmacSha1} {body integrity : List Attr} {fingerprint : Attr}

theorem length_integrity (hw : Written hmac p body integrity fingerprint) :
    (bytesOf integrity).length = if p.addMessageIntegrity then 24 else 0 :=
  length_optional (hmac.length_digest _ _) rfl hw.isIntegrity

theorem length_fingerprint (hw : Written hmac p body integrity fingerprint) : fingerprint.bytes.length = 8 := by
  have halign := fingerprint.aligned
  have hshort := fingerprint.short
  rw [fingerprint.length_bytes]
  rw [hw.fingerprint_value] at halign ⊢
  simp only [set4Bytes, length_cons, length_nil] at halign ⊢
  omega

theorem length_written (hw : Written hmac p body integrity fingerprint) (hid : p.transactionId.length = 12) :
    (header p.typeField (p.fullSize - 20) p.transactionId ++ bytesOf (body ++ (integrity ++ [fingerprint]))).length =
      20 + (bytesOf body).length + (bytesOf integrity).length + 8 := by
  simp only [bytesOf_append, bytesOf_cons, bytesOf_nil, length_append, length_nil, length_header hid, length_fingerprint hw]
  omega

theorem readAll_written (hw : Written hmac p body integrity fingerprint) (herror : p.errorCode ≤ 25599)
    {message : List UInt8} (hlen : message.length = 20 + (bytesOf body).length + (bytesOf integrity).length + 8)
    (hq : ofHeader message = { klass := p.klass, method := p.method, transactionId := p.transactionId
                               data := message, size := message.length }) :
    readAll 20 (body ++ (integrity ++ [fingerprint])) { packet := ofHeader message } =
      .ok { packet := p.received message
            hasMessageIntegrity := p.addMessageIntegrity
            fingerprint := some (20 + (bytesOf body).length + (bytesOf integrity).length,
              getCRC32 (header p.typeField (p.fullSize - 20) p.transactionId ++ bytesOf (body ++ integrity)) ^^^
                0x5354554e) } := by
  have hlen₁ := length_integrity hw
  have hoffset : (if p.addMessageIntegrity then some (20 + (bytesOf body).length + 4) else none) =
      if p.addMessageIntegrity then some (message.length - 28) else none := by
    split
    · rename_i hadd
      rw [if_pos hadd] at hlen₁
      congr 1
      omega
    · rfl
  rw [readAll_append, reads_body herror hw.isBody message 20]
  show readAll _ (integrity ++ [fingerprint]) _ = _
  rw [readAll_append, readAll_integrity (hmac.length_digest _ _) hw.isIntegrity _ _ rfl]
  show readAll _ [fingerprint] _ = _
  rw [readAll_fingerprint rfl hw.fingerprint_type hw.fingerprint_value, hq, hoffset]
  rfl

theorem parse_written (hw : Written hmac p body integrity fingerprint) (hmethod : p.method < 4096)
    (hid : p.transactionId.length = 12) (herror : p.errorCode ≤ 25599) {message : List UInt8}
    (hmessage : message = header p.typeField (p.fullSize - 20) p.transactionId ++
      bytesOf (body ++ (integrity ++ [fingerprint])))
    (hsize : message.length = p.fullSize) (hlt : p.fullSize < 65536) (hfirst : p.typeField / 256 < 3) :
    parse message = .ok (p.received message) := by
  have hheader := @length_header p.typeField (p.fullSize - 20) _ hid
  have hlen : message.length = 20 + (bytesOf body).length + (bytesOf integrity).length + 8 := by
    rw [hmessage, length_written hw hid]
  have hmod : (message.length - 20) % 4 = 0 := by
    rw [hmessage, length_append, hheader, Nat.add_sub_cancel_left]
    exact length_bytesOf_mod _
  have hstun : isStun message := by
    rw [hmessage, isStun_header hid]
    exact decide_eq_true hfirst
  have hfield : get2 message 2 = message.length - 20 := by
    rw [hsize, hmessage]
    exact get2_header _ _ (by omega)
  have hq : ofHeader message = { klass := p.klass, method := p.method, transactionId := p.transactionId
                                 data := message, size := message.length } := by
    rw [hmessage]
    exact ofHeader_header hmethod hid _ _
  have hattributes : readAttributes message message.length 20 { packet := ofHeader message } =
      readAll 20 (body ++ (integrity ++ [fingerprint])) { packet := ofHeader message } >>= fun st =>
        .ok (message.length, st) := by
    have hrounds : (body ++ (integrity ++ [fingerprint])).length < message.length := by
      refine Nat.lt_of_le_of_lt (length_le_length_bytesOf _) ?_
      rw [hmessage, length_append, hheader]
      omega
    have hall := readAttributes_eq (body ++ (integrity ++ [fingerprint])) (by rw [hheader]) (by rw [← hmessage]; omega)
      hrounds { packet := ofHeader message }
    rwa [hheader, ← hmessage] at hall
  have hcrc : message.take (20 + (bytesOf body).length + (bytesOf integrity).length) =
      header p.typeField (p.fullSize - 20) p.transactionId ++ bytesOf (body ++ integrity) := by
    have hcut : message = (header p.typeField (p.fullSize - 20) p.transactionId ++ bytesOf (body ++ integrity)) ++
        fingerprint.bytes := by
      rw [hmessage]
      simp only [bytesOf_append, bytesOf_cons, bytesOf_nil, append_nil, append_assoc]
    rw [hcut]
    exact take_left' (by rw [length_append, hheader, bytesOf_append, length_append, Nat.add_assoc])
  rw [parse, if_neg (not_not.mpr hstun), if_neg (by omega), hattributes, readAll_written hw herror hlen hq]
  simp only [bind, Except.bind, checkFingerprint, hcrc, ne_eq, not_true_eq_false, if_false]

end


theorem checkMessageIntegrity_received {hmac : HmacSha1} {body integrity : List Attr} {fingerprint : Attr}
    (hw : Written hmac p body integrity fingerprint) (hadd : p.addMessageIntegrity = true)
    (hid : p.transactionId.length = 12) {message : List UInt8}
    (hmessage : message = header p.typeField (p.fullSize - 20) p.transactionId ++
      bytesOf (body ++ (integrity ++ [fingerprint]))) (hsize : message.length = p.fullSize) :
    ((p.received message).checkMessageIntegrity hmac (message.length - 28) p.password).1 = .ok := by
  obtain ⟨-, a, rfl, -, hvalue⟩ | ⟨hnot, -⟩ := hw.isIntegrity
  · have hlen : message.length = 20 + (bytesOf body).length + 24 + 8 := by
      rw [hmessage, length_written hw hid, length_integrity hw, if_pos hadd]
    -- The message while the digest is computed, cut in front of MESSAGE-INTEGRITY.
    let before := header p.typeField (p.fullSize - 28) p.transactionId ++ bytesOf body
    have hbefore : before.length = 20 + (bytesOf body).length := by
      rw [length_append, length_header hid]
    have hshort : setLength message (message.length - 20 - 8) = before ++
        ((set2Bytes a.type.toNat ++ set2Bytes a.value.length) ++ (a.value ++ (a.padding ++ fingerprint.bytes))) := by
      have hcut : message = header p.typeField (p.fullSize - 20) p.transactionId ++ (bytesOf body ++
          ((set2Bytes a.type.toNat ++ set2Bytes a.value.length) ++ (a.value ++ (a.padding ++ fingerprint.bytes)))) := by
        rw [hmessage]
        simp only [bytesOf_append, bytesOf_cons, bytesOf_nil, append_nil, Attr.bytes, append_assoc]
      rw [hsize]
      nth_rewrite 1 [hcut]
      rw [setLength_header]
      simp only [before, append_assoc, Nat.sub_sub]
    have hdigest : hmac.digest p.password ((setLength message (message.length - 20 - 8)).take (message.length - 28 - 4)) =
        a.value := by
      rw [hshort, show message.length - 28 - 4 = before.length by omega, take_left, hvalue]
    have hslice : slice (setLength message (message.length - 20 - 8)) (message.length - 28) 20 = a.value := by
      have hoffset : message.length - 28 = (before ++ (set2Bytes a.type.toNat ++ set2Bytes a.value.length)).length := by
        rw [length_append, hbefore]
        show _ = 20 + (bytesOf body).length + 4
        omega
      have htwenty : 20 = a.value.length := by rw [hvalue, hmac.length_digest]
      rw [hshort, ← append_assoc before, hoffset, htwenty]
      exact slice_append_left
    show (if slice (setLength message (message.length - 20 - 8)) (message.length - 28) 20 =
      hmac.digest p.password ((setLength message (message.length - 20 - 8)).take (message.length - 28 - 4)) then
      Authentication.ok else .unauthorized) = .ok
    rw [hslice, hdigest, if_pos rfl]
  · exact absurd hadd hnot

/-! ## The round trip -/

theorem exists_address {body : List Attr} (hbody : p.Body body) {value : List UInt8}
    (hvalue : p.xorMappedAddressValue = some value) : ∃ a ∈ body, a.type = .xorMappedAddress ∧ a.value = value := by
  obtain ⟨_, _, _, _, _, address, _, rfl, -, -, -, -, -, haddress, -⟩ := hbody
  obtain ⟨a, rfl, htype, hsome⟩ | ⟨hnone, -⟩ := haddress
  · refine ⟨a, by simp, htype, ?_⟩
    rw [hvalue] at hsome
    exact (Option.some.inj hsome).symm
  · simp [hvalue] at hnone

theorem parse_of_not_first {n : Nat} (hid : p.transactionId.length = 12) (rest : List UInt8)
    (hfirst : ¬ p.typeField / 256 < 3) :
    parse (header p.typeField n p.transactionId ++ rest) = .error (.discarded .notStun) := by
  rw [parse, isStun_header hid, if_pos (by simpa using hfirst)]

end

/-- `Serialize` succeeds; `Parse` gives the packet back exactly if the first byte of the type field is less than three. -/
theorem parse_serialize (hmac : HmacSha1) (p : StunPacket) (buffer : List UInt8) (hmethod : p.method < 4096)
    (hid : p.transactionId.length = 12) (herror : p.errorCode ≤ 25599) (hsize : p.fullSize < 65536)
    (hbuffer : p.fullSize ≤ buffer.length) :
    ∃ p', p.serialize hmac buffer = .ok p' ∧ p'.size = p.fullSize ∧ parse p'.message =
        (if p.typeField / 256 < 3 then .ok (p.received p'.message) else .error (.discarded .notStun)) ∧
      (∀ address fields, p.method = binding → p.klass = .successResponse → p.xorMappedAddress = some address →
        address.fields = some fields →
        ∃ attributes, p'.message = header p.typeField (p.fullSize - 20) p.transactionId ++ bytesOf attributes ∧
          ∃ a ∈ attributes, a.type = .xorMappedAddress ∧ unXor p.transactionId a.value = fields) ∧
      ∀ q, parse p'.message = .ok q → (∀ u x, p.klass = .request → p.username = u ++ colon :: x → p.password ≠ [] →
          q.checkAuthentication hmac u p.password = (.ok, q)) ∧
        (∀ u k, (q.checkAuthentication hmac u k).2 = q) ∧
        ∀ credentials, checks hmac q credentials = credentials.map fun c => (q.checkAuthentication hmac c.1 c.2).1 := by
  obtain ⟨body, integrity, fingerprint, rest, hw, hlen, hrun⟩ := serialize_eq hmac hid hsize hbuffer
  refine ⟨_, hrun, rfl, ?_⟩
  have hmessage : ∀ p' : StunPacket, p'.data = header p.typeField (p.fullSize - 20) p.transactionId ++
      bytesOf (body ++ (integrity ++ [fingerprint])) ++ rest → p'.size = p.fullSize → p'.message =
      header p.typeField (p.fullSize - 20) p.transactionId ++ bytesOf (body ++ (integrity ++ [fingerprint])) := by
    intro p' hdata hsize
    rw [message, hdata, hsize]
    exact take_left' hlen
  rw [hmessage _ rfl rfl]
  generalize hm : header p.typeField (p.fullSize - 20) p.transactionId ++ bytesOf (body ++ (integrity ++ [fingerprint])) =
    m at hlen
  have hparse : parse m = if p.typeField / 256 < 3 then .ok (p.received m) else .error (.discarded .notStun) := by
    split
    · rename_i hfirst
      exact parse_written hw hmethod hid herror hm.symm hlen hsize hfirst
    · rename_i hfirst
      rw [← hm]
      exact parse_of_not_first hid _ hfirst
  refine ⟨hparse, ?_, ?_⟩
  · intro address fields hbinding hclass haddress hfields
    obtain ⟨value, hvalue, hunxor⟩ := unXor_xorMappedAddressValue hid hbinding hclass haddress hfields
    obtain ⟨a, ha, htype, rfl⟩ := exists_address hw.isBody hvalue
    exact ⟨_, hm.symm, a, mem_append_left _ ha, htype, hunxor⟩
  · intro q hq
    have hintact := intact_of_parse hq
    refine ⟨?_, checkAuthentication_snd hmac hintact, checks_eq_map hmac hintact⟩
    intro u x hclass husername hpassword
    obtain rfl : q = p.received m := by
      rw [hparse] at hq
      split at hq
      · exact (Except.ok.inj hq).symm
      · cases hq
    have hadd : p.addMessageIntegrity = true := decide_eq_true ⟨by rw [hclass]; decide, hpassword⟩
    have hresult : ((p.received m).checkAuthentication hmac u p.password).1 = .ok := by
      have hmi : (p.received m).messageIntegrity = some (m.length - 28) := if_pos hadd
      have hclass' : (p.received m).klass = .request := hclass
      have hne : (p.received m).username ≠ [] := by
        show p.username ≠ []
        rw [husername]
        exact append_ne_nil_of_right_ne_nil _ (cons_ne_nil _ _)
      have hfor : isFor (p.received m).username u = true := by
        show isFor p.username u = true
        rw [husername]
        exact isFor_append u x
      simp only [checkAuthentication, hclass', hmi, if_neg hne, hfor, not_true_eq_false, if_false]
      exact checkMessageIntegrity_received hw hadd hid hm.symm hlen
    exact Prod.ext hresult (checkAuthentication_snd hmac hintact u p.password)

/-- A digest that depends on the key. -/
def keyHmac : HmacSha1 := ⟨fun key _ => (key ++ List.replicate 20 0).take 20, fun key _ => by simp⟩

def bindingRequest : StunPacket where
  klass := .request
  method := binding
  transactionId := List.replicate 12 7
  username := [0x75, colon, 0x78]
  password := [0x6B]

theorem parse_serialize_bindingRequest : ∃ p', bindingRequest.serialize keyHmac (List.replicate 64 0xFF) = .ok p' ∧
    parse p'.message = .ok (bindingRequest.received p'.message) ∧
    (bindingRequest.received p'.message).checkAuthentication keyHmac [0x75] [0x6B] =
      (.ok, bindingRequest.received p'.message) := by
  obtain ⟨p', hrun, -, hparse, -, hcheck⟩ := parse_serialize keyHmac bindingRequest (List.replicate 64 0xFF) (by decide)
    rfl (by decide) (by decide) (by decide)
  rw [if_pos (by decide)] at hparse
  exact ⟨p', hrun, hparse, (hcheck _ hparse).1 [0x75] [0x78] rfl rfl (cons_ne_nil _ _)⟩

def otherRequest : StunPacket := { bindingRequest with method := 0x100 }

theorem parse_serialize_otherRequest : otherRequest.method < 4096 ∧ otherRequest.transactionId.length = 12 ∧
    otherRequest.errorCode ≤ 25599 ∧ otherRequest.fullSize ≤ (List.replicate 64 (0xFF : UInt8)).length ∧
    (otherRequest.serialize keyHmac (List.replicate 64 0xFF)).map (fun p' : StunPacket => parse p'.message) =
      .ok (.error (.discarded .notStun)) := by
  decide +kernel

end StunPacket

end Mediasoup.Stun
