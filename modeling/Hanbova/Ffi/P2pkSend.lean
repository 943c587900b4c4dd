import Hanbova.Library.CStr
import Hanbova.Library.Text

/-! Locked sends through the foreign function interface of the wallet:
`hanbova_cdk_prepare_p2pk_send` of the crate `hanbova-cdk-ffi`. -/
namespace Hanbova

open Library Library.Text

inductive SigFlag
  | sigInputs
  | sigAll
  deriving DecidableEq

/-- The conditions of a P2PK lock besides the recipient's key. -/
structure Conditions (Key : Type) where
  locktime : Option UInt64
  pubkeys : Option (List Key)
  refundKeys : Option (List Key)
  numSigs : Option UInt64
  sigFlag : SigFlag
  numSigsRefund : Option UInt64
  deriving DecidableEq

/-- `SpendingConditions::P2PKConditions`. -/
structure SpendingConditions (Key : Type) where
  data : Key
  conditions : Conditions Key
  deriving DecidableEq

/-- The calls of the wallet library. `World` is a wallet together with its mint and the clock, and
`spendingConditions` are those in the secrets of a token. -/
structure CdkWallet where
  World : Type
  PublicKey : Type
  PreparedSend : Type
  Token : Type
  parsePublicKey : String → Except String PublicKey
  /-- `Conditions::new`, whose arguments come in this order. -/
  newConditions : World → Option UInt64 → Option (List PublicKey) →
    Option (List PublicKey) →
    Option UInt64 → Option SigFlag → Option UInt64 → Except String (Conditions PublicKey)
  prepareSend : World → UInt64 → SpendingConditions PublicKey →
    Except String PreparedSend × World
  confirm : World → PreparedSend → Except String Token × World
  encode : Token → String
  spendingConditions : Token → SpendingConditions PublicKey

namespace CdkWallet
variable (c : CdkWallet)

/-- What is assumed of the library: new conditions are those of the arguments, and a confirmed
token has the conditions that its send was prepared with. -/
structure Lawful : Prop where
  newConditions_ok : ∀ w locktime pubkeys refundKeys numSigs sigFlag numSigsRefund conditions,
    c.newConditions w locktime pubkeys refundKeys numSigs sigFlag numSigsRefund = .ok conditions →
      conditions =
        ⟨locktime, pubkeys, refundKeys, numSigs, sigFlag.getD .sigInputs, numSigsRefund⟩
  confirm_ok : ∀ w amount conditions prepared w' token w'',
    c.prepareSend w amount conditions = (.ok prepared, w') →
      c.confirm w' prepared = (.ok token, w'') → c.spendingConditions token = conditions

/-- The arguments of a call. A pointer that is not null stands for what it points to. -/
structure P2pkSend where
  handle : Option c.World
  amountSats : UInt64
  recipientPubkeyHex : Option CStr
  refundPubkeyHex : Option CStr
  locktimeUnix : UInt64
  outToken : Option Unit

/-- How a call ends, with the last error that it sets. A refused call leaves the wallet alone. -/
inductive SendOutcome
  | refused (code : Int32) (lastError : String)
  | failed (lastError : String) (world : c.World)
  | sent (token : c.Token) (world : c.World)
  | aborted (world : c.World)

variable {c} in
/-- The returned code, if the call returns. -/
def SendOutcome.code : c.SendOutcome → Option Int32
  | .refused code _ => some code
  | .failed _ _ => some 6
  | .sent _ _ => some 0
  | .aborted _ => none

def recipientKey (recipientPubkeyHex : CStr) : Except (Int32 × String) c.PublicKey :=
  match recipientPubkeyHex.toStr with
  | .error e => .error (2, s!"Invalid recipient_pubkey_hex UTF-8: {e}")
  | .ok recPubStr =>
    match c.parsePublicKey recPubStr with
    | .error e => .error (3, s!"Invalid secp256k1 recipient public key: {e}")
    | .ok p => .ok p

def refundPubkeys (refundPubkeyHex : Option CStr) :
    Except (Int32 × String) (Option (List c.PublicKey)) :=
  match refundPubkeyHex with
  | none => .ok none
  | some s =>
    let refPubStr :=
      match s.toStr with
      | .ok t => if t.isEmpty then "" else t
      -- A refund key that is not UTF-8 passes for an empty one.
      | .error _ => ""
    if refPubStr.isEmpty then .ok none
    else
      match c.parsePublicKey refPubStr with
      | .error e => .error (4, s!"Invalid refund public key: {e}")
      | .ok p => .ok (some [p])

def requestedLocktime (locktimeUnix : UInt64) : Option UInt64 :=
  if locktimeUnix > 0 then some locktimeUnix else none

/-- The call up to `wallet.prepare_send`. -/
def requestedConditions (w : c.World) (recipientPubkeyHex : CStr) (refundPubkeyHex : Option CStr)
    (locktimeUnix : UInt64) : Except (Int32 × String) (SpendingConditions c.PublicKey) := do
  let recipient ← c.recipientKey recipientPubkeyHex
  let refundKeys ← c.refundPubkeys refundPubkeyHex
  match c.newConditions w (requestedLocktime locktimeUnix) none refundKeys none (some .sigInputs)
    none with
  | .error e => .error (5, s!"Failed to create NUT-10 conditions: {e}")
  | .ok conditions => .ok ⟨recipient, conditions⟩

/-- The wallet's part of the call; a token whose text has a NUL aborts the process. -/
def send (w : c.World) (amountSats : UInt64) (conditions : SpendingConditions c.PublicKey) :
    c.SendOutcome :=
  match c.prepareSend w amountSats conditions with
  | (.error e, w') => .failed s!"Failed to prepare P2PK send: {e}" w'
  | (.ok prepared, w') =>
    match c.confirm w' prepared with
    | (.error e, w'') => .failed s!"Failed to prepare P2PK send: {e}" w''
    | (.ok token, w'') =>
      if contains (c.encode token) (.ofNat 0) then .aborted w'' else .sent token w''

def prepareP2pkSend (req : c.P2pkSend) : c.SendOutcome :=
  match req.handle, req.recipientPubkeyHex, req.outToken with
  | some w, some recipientPubkeyHex, some () =>
    match c.requestedConditions w recipientPubkeyHex req.refundPubkeyHex req.locktimeUnix with
    | .error (code, lastError) => .refused code lastError
    | .ok conditions => c.send w req.amountSats conditions
  | _, _, _ => .refused 1 "Null pointer provided to hanbova_cdk_prepare_p2pk_send"

/-! ### The stages of a call -/

/-- The bytes are the text of the key. -/
def Decodes (s : CStr) (pk : c.PublicKey) : Prop :=
  ∃ t, s.toStr = .ok t ∧ c.parsePublicKey t = .ok pk

/-- The refund keys that the argument asks for. -/
def RefundAsked (refundPubkeyHex : Option CStr) (keys : Option (List c.PublicKey)) : Prop :=
  match refundPubkeyHex with
  | none => keys = none
  | some s =>
    if s.bytes.size = 0 then keys = none else ∃ pk, c.Decodes s pk ∧ keys = some [pk]

variable {c}

/-- `Conditions::new` with what a call asks for. -/
def NewConditions (w : c.World) (locktimeUnix : UInt64) (keys : Option (List c.PublicKey))
    (conditions : Conditions c.PublicKey) : Prop :=
  c.newConditions w (if 0 < locktimeUnix then some locktimeUnix else none) none keys none
    (some .sigInputs) none = .ok conditions

/-- A stage of a call ends it, with a code other than 0. -/
def Refuses {α : Type} (x : Except (Int32 × String) α) : Prop :=
  ∃ code lastError, x = .error (code, lastError) ∧ code ≠ 0

/-- The stages behind a refusal do not run. -/
theorem Refuses.bind {α β : Type} {x : Except (Int32 × String) α} (h : Refuses x)
    (f : α → Except (Int32 × String) β) : Refuses (x >>= f) := by
  obtain ⟨code, lastError, rfl, hcode⟩ := h
  exact ⟨code, lastError, rfl, hcode⟩

theorem recipientKey_ok {s : CStr} {pk : c.PublicKey} :
    c.recipientKey s = .ok pk ↔ c.Decodes s pk := by
  unfold recipientKey Decodes
  cases hs : s.toStr with
  | error e => simp
  | ok t => cases hp : c.parsePublicKey t <;> simp [hp]

theorem recipientKey_cases (s : CStr) :
    (∃ pk, c.recipientKey s = .ok pk) ∨ Refuses (c.recipientKey s) := by
  unfold recipientKey
  cases hs : s.toStr with
  | error e => exact .inr ⟨2, _, rfl, by decide⟩
  | ok t =>
    cases hp : c.parsePublicKey t with
    | error e =>
      simp only [hp]
      exact .inr ⟨3, _, rfl, by decide⟩
    | ok pk =>
      simp only [hp]
      exact .inl ⟨pk, rfl⟩

/-- The refund argument is refused, or gives the keys that it asks for, if it is UTF-8. -/
theorem refundPubkeys_of_valid {refund : Option CStr} (h : ∀ s ∈ refund, s.bytes.IsValidUTF8) :
    (∃ keys, c.refundPubkeys refund = .ok keys ∧ c.RefundAsked refund keys) ∨
      Refuses (c.refundPubkeys refund) := by
  cases refund with
  | none => exact .inl ⟨none, rfl, rfl⟩
  | some s =>
    obtain ⟨t, ht⟩ := CStr.exists_toStr (h s rfl)
    have hempty := CStr.isEmpty_of_toStr ht
    unfold refundPubkeys RefundAsked
    simp only [ht]
    by_cases hsize : s.bytes.size = 0
    · exact .inl ⟨none, by simp [hempty.mpr hsize], by simp [hsize]⟩
    · have hne : t.isEmpty = false := by
        rw [← Bool.not_eq_true, hempty]
        exact hsize
      cases hp : c.parsePublicKey t with
      | error e =>
        simp only [hne, hp, Bool.false_eq_true, if_false]
        exact .inr ⟨4, _, rfl, by decide⟩
      | ok pk => exact .inl ⟨some [pk], by simp [hne, hp], by simp [hsize, Decodes, ht, hp]⟩

/-- A refund argument that is not UTF-8 counts as none. -/
theorem refundPubkeys_of_not_valid {s : CStr} (h : ¬ s.bytes.IsValidUTF8) :
    c.refundPubkeys (some s) = .ok none := by
  obtain ⟨e, he⟩ := CStr.toStr_of_not_valid h
  unfold refundPubkeys
  simp [he]

/-- A key is no empty text, so an argument that asks for keys and gets them can be decoded. -/
theorem RefundAsked.decodes {refund : Option CStr} {keys : Option (List c.PublicKey)}
    (h : c.RefundAsked refund keys) {s : CStr} (hs : s ∈ refund) (hsize : s.bytes.size ≠ 0) :
    ∃ pk, c.Decodes s pk := by
  obtain rfl := Option.mem_def.mp hs
  unfold RefundAsked at h
  simp only [hsize, if_false] at h
  obtain ⟨pk, hpk, -⟩ := h
  exact ⟨pk, hpk⟩

section
variable {w : c.World} {r : CStr} {refund : Option CStr} {locktimeUnix : UInt64}
  {pk : c.PublicKey} {keys : Option (List c.PublicKey)}

theorem requestedConditions_of_recipient (h : Refuses (c.recipientKey r)) :
    Refuses (c.requestedConditions w r refund locktimeUnix) := by
  unfold requestedConditions
  exact h.bind _

theorem requestedConditions_of_refund (hpk : c.recipientKey r = .ok pk)
    (h : Refuses (c.refundPubkeys refund)) :
    Refuses (c.requestedConditions w r refund locktimeUnix) := by
  unfold requestedConditions
  rw [hpk]
  exact h.bind _

/-- Once both keys are read, the conditions are those that the library makes of them. -/
theorem requestedConditions_of_new {conditions : Conditions c.PublicKey}
    (hpk : c.recipientKey r = .ok pk) (hkeys : c.refundPubkeys refund = .ok keys)
    (h : NewConditions w locktimeUnix keys conditions) :
    c.requestedConditions w r refund locktimeUnix = .ok ⟨pk, conditions⟩ := by
  have hnew : c.newConditions w (requestedLocktime locktimeUnix) none keys none (some .sigInputs)
    none = .ok conditions := h
  unfold requestedConditions
  rw [hpk, hkeys]
  simp only [bind, Except.bind, hnew]

theorem requestedConditions_cases (w : c.World) (locktimeUnix : UInt64)
    (hpk : c.recipientKey r = .ok pk) (hkeys : c.refundPubkeys refund = .ok keys) :
    (∃ conditions, NewConditions w locktimeUnix keys conditions) ∨
      Refuses (c.requestedConditions w r refund locktimeUnix) := by
  cases hnew : c.newConditions w (requestedLocktime locktimeUnix) none keys none (some .sigInputs)
    none with
  | ok conditions => exact .inl ⟨conditions, hnew⟩
  | error e =>
    right
    unfold requestedConditions
    rw [hpk, hkeys]
    simp only [bind, Except.bind, hnew]
    exact ⟨5, _, rfl, by decide⟩

end

/-- The wallet's part of a call refuses nothing. -/
theorem send_ne_refused (w : c.World) (amountSats : UInt64)
    (conditions : SpendingConditions c.PublicKey) (code : Int32) (lastError : String) :
    c.send w amountSats conditions ≠ .refused code lastError := by
  unfold send
  split
  · simp
  · split
    · simp
    · split_ifs <;> simp

/-- A token that is sent has the conditions that the wallet was given. -/
theorem send_code_zero (hc : c.Lawful) {w : c.World} {amountSats : UInt64}
    {conditions : SpendingConditions c.PublicKey}
    (h : (c.send w amountSats conditions).code = some 0) :
    ∃ token w', c.send w amountSats conditions = .sent token w' ∧
      c.spendingConditions token = conditions := by
  unfold send at h ⊢
  cases hp : c.prepareSend w amountSats conditions with
  | mk prepared w' =>
    cases prepared with
    | error e => simp [hp, SendOutcome.code] at h
    | ok prepared =>
      simp only [hp] at h ⊢
      cases hconfirm : c.confirm w' prepared with
      | mk token w'' =>
        cases token with
        | error e => simp [hconfirm, SendOutcome.code] at h
        | ok token =>
          simp only [hconfirm] at h ⊢
          split_ifs at h ⊢
          · simp [SendOutcome.code] at h
          · exact ⟨token, w'', rfl, hc.confirm_ok _ _ _ _ _ _ _ hp hconfirm⟩

theorem prepareP2pkSend_eq {req : c.P2pkSend} {w : c.World} {r : CStr}
    (hw : req.handle = some w) (hr : req.recipientPubkeyHex = some r)
    (hout : req.outToken = some ()) :
    c.prepareP2pkSend req =
      match c.requestedConditions w r req.refundPubkeyHex req.locktimeUnix with
      | .error (code, lastError) => .refused code lastError
      | .ok conditions => c.send w req.amountSats conditions := by
  unfold prepareP2pkSend
  simp only [hw, hr, hout]

/-! ### A wallet that knows some keys -/

/-- The time, and what the wallet holds. -/
structure Purse where
  now : UInt64
  balance : UInt64
  deriving DecidableEq

abbrev purse (keys : List String) : CdkWallet where
  World := Purse
  PublicKey := String
  PreparedSend := UInt64 × SpendingConditions String
  Token := UInt64 × SpendingConditions String
  parsePublicKey s := if s ∈ keys then .ok s else .error "Invalid public key"
  newConditions w locktime pubkeys refundKeys numSigs sigFlag numSigsRefund :=
    if locktime.any (· < w.now) then .error "Locktime in past"
    else .ok ⟨locktime, pubkeys, refundKeys, numSigs, sigFlag.getD .sigInputs, numSigsRefund⟩
  prepareSend w amountSats conditions :=
    (if w.balance < amountSats then .error "Insufficient funds"
      else .ok (amountSats, conditions), w)
  confirm w prepared := (.ok prepared, { w with balance := w.balance - prepared.1 })
  encode token := s!"cashuB{token.1}"
  spendingConditions := Prod.snd

theorem purse_lawful (keys : List String) : (purse keys).Lawful where
  newConditions_ok w locktime pubkeys refundKeys numSigs sigFlag numSigsRefund conditions h := by
    simp only at h
    split_ifs at h
    exact (Except.ok.inj h).symm
  confirm_ok w amountSats conditions prepared w' token w'' hprepare hconfirm := by
    simp only [Prod.mk.injEq] at hprepare hconfirm
    split_ifs at hprepare
    · cases hprepare.1
    · rw [← Except.ok.inj hconfirm.1, ← Except.ok.inj hprepare.1]

end CdkWallet
end Hanbova
