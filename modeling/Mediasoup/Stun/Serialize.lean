import Mediasoup.Stun.Attributes

/-!
# Writing STUN packets

`Serialize` leaves the header, the attributes, MESSAGE-INTEGRITY and FINGERPRINT in the buffer, whatever the buffer held
before (`serialize_eq`). MESSAGE-INTEGRITY is computed over the message up to it with a length field that leaves FINGERPRINT
out, and the field is restored. The value of XOR-MAPPED-ADDRESS is the address to a reader (`unXor_xorMappedAddressValue`).
-/

namespace Mediasoup.Stun

open Lib Utils StunPacket List Memory

def Sockaddr.fields : Sockaddr → Option (UInt8 × List UInt8 × List UInt8)
  | .inet port address => some (0x01, port.toList, address.toList)
  | .inet6 port address => some (0x02, port.toList, address.toList)
  | .other => none

/-- The reader's side of XOR-MAPPED-ADDRESS. -/
def unXor (transactionId value : List UInt8) : UInt8 × List UInt8 × List UInt8 :=
  (value.getD 1 0, xorBytes (slice value 2 2) magicCookie, xorBytes (value.drop 4) (magicCookie ++ transactionId))

namespace StunPacket

/-! ## Sizes -/

section

variable (p : StunPacket)

def fullSize : Nat := p.sizeWith ((p.username.length + 3) / 4 * 4)

variable {p}

theorem usernamePaddedLen_eq (h : p.fullSize < 65536) : p.usernamePaddedLen = (p.username.length + 3) / 4 * 4 := by
  unfold usernamePaddedLen
  split
  · rename_i hnil
    rw [hnil]
    rfl
  rename_i hne
  have hle : 4 + (p.username.length + 3) / 4 * 4 ≤ p.attributesSize ((p.username.length + 3) / 4 * 4) := by
    unfold attributesSize
    rw [if_neg hne]
    omega
  unfold fullSize sizeWith at h
  rw [Nat.mod_eq_of_lt (by omega), padTo4Bytes_eq (by omega)]

theorem serializedSize_eq (h : p.fullSize < 65536) : p.serializedSize = p.fullSize := by
  rw [serializedSize, usernamePaddedLen_eq h, fullSize]

theorem length_xorBytes {a b : List UInt8} (h : a.length ≤ b.length) : (xorBytes a b).length = a.length := by
  rw [xorBytes, length_zipWith, Nat.min_eq_left h]

theorem xorBytes_xorBytes {a b : List UInt8} (h : a.length ≤ b.length) : xorBytes (xorBytes a b) b = a := by
  induction a generalizing b with
  | nil => rfl
  | cons x a ih =>
    cases b with
    | nil => cases h
    | cons y b =>
      have hx : x ^^^ y ^^^ y = x := by rw [UInt8.xor_assoc, UInt8.xor_self, UInt8.xor_zero]
      simp only [xorBytes, zipWith_cons_cons, hx]
      exact congrArg _ (ih (Nat.le_of_succ_le_succ h))

theorem xorMappedAddressValue_eq_none_iff : p.xorMappedAddressValue = none ↔ p.xorMappedAddressPaddedLen = 0 := by
  unfold xorMappedAddressValue xorMappedAddressPaddedLen
  split
  · rcases p.xorMappedAddress with _ | ⟨⟨⟩ | ⟨⟩ | ⟨⟩⟩ <;> simp
  · simp

theorem length_xorMappedAddressValue (hid : p.transactionId.length = 12) {value : List UInt8}
    (h : p.xorMappedAddressValue = some value) :
    value.length = p.xorMappedAddressPaddedLen ∧ value.length % 4 = 0 ∧ value.length < 65536 := by
  unfold xorMappedAddressValue at h
  unfold xorMappedAddressPaddedLen
  split at h
  · rename_i hadd
    rw [if_pos hadd]
    generalize p.xorMappedAddress = address at h
    rcases address with _ | ⟨port, address⟩ | ⟨port, address⟩ | _
    · cases h
    · cases h
      simp [length_xorBytes, magicCookie]
    · cases h
      simp [length_xorBytes, magicCookie, hid]
    · cases h
  · cases h

/-! ## The attributes that are written -/

theorem emits_writeUsername (h : p.fullSize < 65536) :
    Emits p.writeUsername (if p.username = [] then 0 else 4 + p.usernamePaddedLen)
      (Optional (p.username ≠ []) .username p.username) := by
  have hpadded := usernamePaddedLen_eq h
  unfold writeUsername
  by_cases hnil : p.username = []
  · have hzero : p.usernamePaddedLen = 0 := by rw [hpadded, hnil]; rfl
    simp only [hzero, if_pos hnil, ne_eq, not_true_eq_false, if_false]
    exact Emits.nothing (.inr ⟨fun hne => hne hnil, rfl⟩)
  have hpos : 0 < p.username.length := length_pos_iff.mpr hnil
  have hle : p.username.length < 65536 := by
    have : 4 + (p.username.length + 3) / 4 * 4 ≤ p.attributesSize ((p.username.length + 3) / 4 * 4) := by
      unfold attributesSize
      rw [if_neg hnil]
      omega
    unfold fullSize sizeWith at h
    omega
  have hne : p.usernamePaddedLen ≠ 0 := by omega
  simp only [if_pos hne, if_neg hnil]
  exact (emits_writeAttribute (by decide) hle (by omega) (by omega) (by omega)).imp fun as has => .inl ⟨hnil, has⟩

def AddressAttr (p : StunPacket) (as : List Attr) : Prop :=
  (∃ a : Attr, as = [a] ∧ a.type = .xorMappedAddress ∧ p.xorMappedAddressValue = some a.value) ∨
    (p.xorMappedAddressValue = none ∧ as = [])

theorem emits_writeXorMappedAddress (hid : p.transactionId.length = 12) : Emits p.writeXorMappedAddress
      (if p.xorMappedAddressPaddedLen ≠ 0 then 4 + p.xorMappedAddressPaddedLen else 0) p.AddressAttr := by
  unfold writeXorMappedAddress
  cases hvalue : p.xorMappedAddressValue with
  | none =>
    rw [if_neg (fun hne => hne (xorMappedAddressValue_eq_none_iff.mp hvalue))]
    exact Emits.nothing (.inr ⟨hvalue, rfl⟩)
  | some value =>
    obtain ⟨hlen, hmod, hlt⟩ := length_xorMappedAddressValue hid hvalue
    have hne : p.xorMappedAddressPaddedLen ≠ 0 := by
      intro hzero
      simp [xorMappedAddressValue_eq_none_iff.mpr hzero] at hvalue
    rw [if_pos hne, ← hlen]
    refine (emits_writeAttribute (by decide) hlt (Nat.le_refl _) (by omega) hmod).imp ?_
    rintro as ⟨a, has, htype, rfl⟩
    exact .inl ⟨a, has, htype, hvalue⟩

def Body (p : StunPacket) (as : List Attr) : Prop :=
  ∃ username priority iceControlling iceControlled useCandidate address errorCode,
    as = username ++ (priority ++ (iceControlling ++ (iceControlled ++ (useCandidate ++ (address ++ errorCode))))) ∧
    Optional (p.username ≠ []) .username p.username username ∧
    Optional (p.priority ≠ 0) .priority (set4Bytes p.priority.toNat) priority ∧
    Optional (p.iceControlling ≠ 0) .iceControlling (set8Bytes p.iceControlling.toNat) iceControlling ∧
    Optional (p.iceControlled ≠ 0) .iceControlled (set8Bytes p.iceControlled.toNat) iceControlled ∧
    Optional p.hasUseCandidate .useCandidate [] useCandidate ∧
    p.AddressAttr address ∧
    Optional p.addErrorCode .errorCode p.errorCodeValue errorCode

theorem emits_writeAttributes (hid : p.transactionId.length = 12) (h : p.fullSize < 65536) :
    Emits p.writeAttributes (p.attributesSize p.usernamePaddedLen) p.Body := by
  have hall := (emits_writeUsername h).kleisli <|
    (@emits_ite (p.priority ≠ 0) _ .priority (set4Bytes p.priority.toNat) 4 (by decide) rfl (by decide) rfl).kleisli <|
    (@emits_ite (p.iceControlling ≠ 0) _ .iceControlling (set8Bytes p.iceControlling.toNat) 8 (by decide) rfl
      (by decide) rfl).kleisli <|
    (@emits_ite (p.iceControlled ≠ 0) _ .iceControlled (set8Bytes p.iceControlled.toNat) 8 (by decide) rfl
      (by decide) rfl).kleisli <|
    (@emits_ite p.hasUseCandidate _ .useCandidate [] 0 (by decide) rfl (by decide) rfl).kleisli <|
    (emits_writeXorMappedAddress hid).kleisli
    (@emits_ite p.addErrorCode _ .errorCode p.errorCodeValue 4 (by decide) rfl (by decide) rfl)
  refine (hall.of_eq (by simp only [attributesSize, Nat.add_assoc])).imp ?_
  rintro as ⟨l₁, _, rfl, h₁, l₂, _, rfl, h₂, l₃, _, rfl, h₃, l₄, _, rfl, h₄, l₅, _, rfl, h₅, l₆, l₇, rfl, h₆, h₇⟩
  exact ⟨l₁, l₂, l₃, l₄, l₅, l₆, l₇, rfl, h₁, h₂, h₃, h₄, h₅, h₆, h₇⟩

/-! ## What is left in the buffer -/

/-- The attributes of a message: the body, MESSAGE-INTEGRITY computed over the body with a shorter length field, and
FINGERPRINT computed over all of it. -/
structure Written (hmac : HmacSha1) (p : StunPacket) (body integrity : List Attr) (fingerprint : Attr) : Prop where
  isBody : p.Body body
  isIntegrity : Optional p.addMessageIntegrity .messageIntegrity
    (hmac.digest p.password (header p.typeField (p.fullSize - 28) p.transactionId ++ bytesOf body)) integrity
  fingerprint_type : fingerprint.type = .fingerprint
  fingerprint_value : fingerprint.value = set4Bytes
    (getCRC32 (header p.typeField (p.fullSize - 20) p.transactionId ++ bytesOf (body ++ integrity)) ^^^ 0x5354554e).toNat

theorem length_header {t n : Nat} {id : List UInt8} (hid : id.length = 12) : (header t n id).length = 20 := by
  simp [header, set2Bytes, magicCookie, hid]

theorem setLength_header (t n m : Nat) (id rest : List UInt8) :
    setLength (header t n id ++ rest) m = header t m id ++ rest := rfl

theorem wrote_writeHeader {hid : p.transactionId.length = 12} {buffer : List UInt8} {n : Nat}
    (hbuffer : buffer.length = 20 + n) :
    ∃ w, p.writeHeader buffer = .ok w ∧ Wrote (header p.typeField (p.serializedSize - 20) p.transactionId) n w := by
  have hlen := @length_header p.typeField (p.serializedSize - 20) _ hid
  have hcut : write buffer 0 (header p.typeField (p.serializedSize - 20) p.transactionId) =
      some (header p.typeField (p.serializedSize - 20) p.transactionId ++ buffer.drop 20) := by
    rw [write, if_pos (by omega), hlen, take_zero, nil_append, Nat.zero_add]
  refine ⟨⟨header p.typeField (p.serializedSize - 20) p.transactionId ++ buffer.drop 20, 20⟩, ?_, buffer.drop 20, rfl,
    hlen.symm, ?_⟩
  · simp only [writeHeader, hcut]
  · rw [length_drop]
    omega

theorem wrote_writeMessageIntegrity (hmac : HmacSha1) (hid : p.transactionId.length = 12) (h : p.fullSize < 65536)
    {body : List Attr} {n : Nat} {w : Writer}
    (hw : Wrote (header p.typeField (p.serializedSize - 20) p.transactionId ++ bytesOf body)
      ((if p.addMessageIntegrity then 4 + 20 else 0) + n) w) :
    ∃ integrity w', p.writeMessageIntegrity hmac w =
        .ok (w', if p.addMessageIntegrity then some (24 + (bytesOf body).length) else none) ∧
      Wrote (header p.typeField (p.serializedSize - 20) p.transactionId ++ bytesOf (body ++ integrity)) n w' ∧
      Optional p.addMessageIntegrity .messageIntegrity
        (hmac.digest p.password (header p.typeField (p.fullSize - 28) p.transactionId ++ bytesOf body)) integrity := by
  by_cases hadd : p.addMessageIntegrity = true
  · rw [if_pos hadd] at hw ⊢
    obtain ⟨rest, hbuffer, hpos, hroom⟩ := hw
    -- The buffer while the digest is computed.
    have hshort : setLength w.buffer (p.serializedSize - 20 - 8) =
        header p.typeField (p.serializedSize - 28) p.transactionId ++ bytesOf body ++ rest := by
      rw [hbuffer, append_assoc, setLength_header, append_assoc]
      rfl
    have hposShort : w.pos = (header p.typeField (p.serializedSize - 28) p.transactionId ++ bytesOf body).length := by
      rw [hpos, length_append, length_append, length_header hid, length_header hid]
    have hdigest : (setLength w.buffer (p.serializedSize - 20 - 8)).take w.pos =
        header p.typeField (p.serializedSize - 28) p.transactionId ++ bytesOf body := by
      rw [hshort, hposShort, take_left]
    obtain ⟨as, w', hrun, ⟨rest', hbuffer', hpos', hroom'⟩, hsize, a, rfl, htype, hvalue⟩ :=
      @emits_of_length .messageIntegrity (hmac.digest p.password
        (header p.typeField (p.serializedSize - 28) p.transactionId ++ bytesOf body)) 20 (by decide)
        (hmac.length_digest _ _) (by decide) rfl _ n ⟨setLength w.buffer (p.serializedSize - 20 - 8), w.pos⟩
        ⟨rest, hshort, hposShort, hroom⟩
    refine ⟨[a], ⟨setLength w'.buffer (p.serializedSize - 20), w'.pos⟩, ?_, ⟨rest', ?_, ?_, hroom'⟩,
      .inl ⟨hadd, a, rfl, htype, ?_⟩⟩
    · have hoffset : w.pos + 4 = 24 + (bytesOf body).length := by
        rw [hpos, length_append, length_header hid]
        omega
      simp only [writeMessageIntegrity, if_pos hadd, hdigest, hrun, bind, Except.bind, hoffset]
    · rw [hbuffer', bytesOf_append, append_assoc, append_assoc, setLength_header, append_assoc, append_assoc]
    · rw [hpos', bytesOf_append, ← append_assoc, length_append, length_append, length_append,
        length_append, length_header hid, length_header hid]
    · rw [hvalue, serializedSize_eq h]
  · rw [if_neg hadd, Nat.zero_add] at hw
    refine ⟨[], w, ?_, ?_, .inr ⟨hadd, rfl⟩⟩
    · rw [writeMessageIntegrity, if_neg hadd, if_neg hadd]
    · rwa [append_nil]

theorem wrote_writeFingerprint {done : List UInt8} {n : Nat} {w : Writer} (hw : Wrote done (8 + n) w) :
    ∃ (a : Attr) (w' : Writer), writeFingerprint w = .ok w' ∧ Wrote (done ++ a.bytes) n w' ∧ a.type = .fingerprint ∧
      a.value = set4Bytes (getCRC32 done ^^^ 0x5354554e).toNat ∧ a.bytes.length = 8 := by
  have htake : w.buffer.take w.pos = done := by
    obtain ⟨rest, hbuffer, hpos, -⟩ := hw
    rw [hbuffer, hpos, take_left]
  obtain ⟨as, w', hrun, hw', hsize, a, rfl, htype, hvalue⟩ :=
    @emits_of_length .fingerprint (set4Bytes (getCRC32 done ^^^ 0x5354554e).toNat) 4 (by decide) rfl (by decide) rfl
      done n w hw
  simp only [bytesOf_cons, bytesOf_nil, append_nil] at hw' hsize
  exact ⟨a, w', by rw [writeFingerprint, htake]; exact hrun, hw', htype, hvalue, hsize⟩

theorem length_optional {c : Bool} {type : Attribute} {value : List UInt8} {len : Nat} (hlen : value.length = len)
    (hmod : len % 4 = 0) {as : List Attr} (has : Optional c type value as) :
    (bytesOf as).length = if c then 4 + len else 0 := by
  obtain ⟨hc, a, rfl, -, rfl⟩ | ⟨hc, rfl⟩ := has
  · have halign := a.aligned
    have hshort := a.short
    rw [if_pos hc, bytesOf_cons, bytesOf_nil, append_nil, a.length_bytes]
    omega
  · rw [if_neg hc]
    rfl

theorem serialize_eq (hmac : HmacSha1) (hid : p.transactionId.length = 12) (h : p.fullSize < 65536)
    {buffer : List UInt8} (hbuffer : p.fullSize ≤ buffer.length) :
    ∃ body integrity fingerprint rest, Written hmac p body integrity fingerprint ∧
      (header p.typeField (p.fullSize - 20) p.transactionId ++ bytesOf (body ++ (integrity ++ [fingerprint]))).length =
        p.fullSize ∧
      p.serialize hmac buffer = .ok { p with
        data := header p.typeField (p.fullSize - 20) p.transactionId ++ bytesOf (body ++ (integrity ++ [fingerprint])) ++ rest
        size := p.fullSize
        messageIntegrity := if p.addMessageIntegrity then some (24 + (bytesOf body).length) else none
        hasFingerprint := true } := by
  have hsizes := serializedSize_eq h
  have hfull : p.fullSize = 20 + (p.attributesSize p.usernamePaddedLen +
      ((if p.addMessageIntegrity then 4 + 20 else 0) + 8)) := by
    rw [← hsizes, serializedSize, sizeWith]
    omega
  obtain ⟨room, hroom⟩ := Nat.exists_eq_add_of_le hbuffer
  obtain ⟨w₁, hrun₁, hw₁⟩ := @wrote_writeHeader p hid buffer
    (p.attributesSize p.usernamePaddedLen + ((if p.addMessageIntegrity then 4 + 20 else 0) + (8 + room))) (by omega)
  obtain ⟨body, w₂, hrun₂, hw₂, hsize₂, hbody⟩ := emits_writeAttributes hid h _ _ _ hw₁
  obtain ⟨integrity, w₃, hrun₃, hw₃, hintegrity⟩ := wrote_writeMessageIntegrity hmac hid h hw₂
  obtain ⟨fingerprint, w₄, hrun₄, ⟨rest, hbuffer₄, hpos₄, -⟩, htype, hvalue, hsize₄⟩ := wrote_writeFingerprint hw₃
  have hbytes : header p.typeField (p.fullSize - 20) p.transactionId ++ bytesOf (body ++ integrity) ++ fingerprint.bytes =
      header p.typeField (p.fullSize - 20) p.transactionId ++ bytesOf (body ++ (integrity ++ [fingerprint])) := by
    simp only [bytesOf_append, bytesOf_cons, bytesOf_nil, append_nil, append_assoc]
  rw [hsizes] at hbuffer₄ hpos₄ hvalue
  have hlength := length_optional (hmac.length_digest _ _) rfl hintegrity
  rw [hbytes] at hbuffer₄ hpos₄
  have htotal : (header p.typeField (p.fullSize - 20) p.transactionId ++
      bytesOf (body ++ (integrity ++ [fingerprint]))).length = p.fullSize := by
    simp only [length_append, length_header hid, bytesOf_append, bytesOf_cons, bytesOf_nil, length_nil, hsize₂, hlength, hsize₄]
    omega
  refine ⟨body, integrity, fingerprint, rest, ⟨hbody, hintegrity, htype, hvalue⟩, htotal, ?_⟩
  have hpos : w₄.pos = p.fullSize := by rw [hpos₄, htotal]
  simp only [serialize, bind, Except.bind, hrun₁, hrun₂, hrun₃, hrun₄, if_pos hpos, hbuffer₄, hsizes]

/-! ## XOR-MAPPED-ADDRESS -/

theorem xorBytes_append {a b : List UInt8} (c : List UInt8) (h : a.length ≤ b.length) : xorBytes a (b ++ c) = xorBytes a b := by
  induction a generalizing b with
  | nil => rfl
  | cons x a ih =>
    cases b with
    | nil => cases h
    | cons y b => exact congrArg ((x ^^^ y) :: ·) (ih (Nat.le_of_succ_le_succ h))

theorem unXor_value {family : UInt8} {port address mask rest id : List UInt8} (hport : port.length = 2)
    (hmask : magicCookie ++ id = mask ++ rest) (haddress : address.length ≤ mask.length) :
    unXor id ([0, family] ++ (xorBytes port magicCookie ++ xorBytes address mask)) = (family, port, address) := by
  have hport' : port.length ≤ magicCookie.length := by rw [hport]; decide
  have hlen : (xorBytes port magicCookie).length = 2 := (length_xorBytes hport').trans hport
  have hslice : slice ([0, family] ++ (xorBytes port magicCookie ++ xorBytes address mask)) 2 2 =
      xorBytes port magicCookie := by
    have hcut := @slice_append_left _ [0, family] (xorBytes port magicCookie) (xorBytes address mask)
    rwa [hlen] at hcut
  have hdrop : ([0, family] ++ (xorBytes port magicCookie ++ xorBytes address mask)).drop 4 = xorBytes address mask := by
    rw [← append_assoc]
    exact drop_left' (by rw [length_append, hlen]; rfl)
  have hxor : xorBytes (xorBytes address mask) (mask ++ rest) = address := by
    rw [xorBytes_append rest (by rw [length_xorBytes haddress]; exact haddress), xorBytes_xorBytes haddress]
  rw [unXor, hslice, hdrop, hmask, hxor, xorBytes_xorBytes hport']
  rfl

theorem unXor_xorMappedAddressValue (hid : p.transactionId.length = 12) {address : Sockaddr}
    (hbinding : p.method = binding) (hclass : p.klass = .successResponse) (haddress : p.xorMappedAddress = some address)
    {fields : UInt8 × List UInt8 × List UInt8} (hfields : address.fields = some fields) :
    ∃ value, p.xorMappedAddressValue = some value ∧ unXor p.transactionId value = fields := by
  simp only [xorMappedAddressValue, if_pos (And.intro hbinding hclass), haddress]
  cases address with
  | inet port address =>
    refine ⟨_, rfl, ?_⟩
    rw [unXor_value (by simp) rfl (by simp [magicCookie])]
    exact Option.some.inj hfields
  | inet6 port address =>
    refine ⟨_, rfl, ?_⟩
    rw [unXor_value (by simp) (append_nil _).symm (by simp [magicCookie, hid])]
    exact Option.some.inj hfields
  | other => cases hfields

end

end StunPacket

end Mediasoup.Stun
