import Hanbova.Ffi.P2pkSend

/-! Whether a locked send through the foreign function interface has the lock that was asked for. -/
namespace Hanbova.CdkWallet

open Library

variable {c : CdkWallet}

/-- The conditions are those of the arguments, and there are no others. -/
structure AskedFor (req : c.P2pkSend) (conditions : SpendingConditions c.PublicKey) : Prop where
  recipient : ∃ s ∈ req.recipientPubkeyHex, c.Decodes s conditions.data
  locktime : conditions.conditions.locktime =
    if 0 < req.locktimeUnix then some req.locktimeUnix else none
  refund : c.RefundAsked req.refundPubkeyHex conditions.conditions.refundKeys
  single : conditions.conditions.pubkeys = none ∧ conditions.conditions.numSigs = none ∧
    conditions.conditions.sigFlag = .sigInputs ∧ conditions.conditions.numSigsRefund = none

/-- An argument that is given is not the text of a key. -/
def Undecodable (req : c.P2pkSend) : Prop :=
  (∃ s ∈ req.recipientPubkeyHex, ∀ pk, ¬ c.Decodes s pk) ∨
    ∃ s ∈ req.refundPubkeyHex, s.bytes.size ≠ 0 ∧ ∀ pk, ¬ c.Decodes s pk

/-- A call that returns 0 has locked a token as it was asked to, and one with an argument that
cannot be decoded is refused before the wallet is touched. -/
structure LocksAsAsked (req : c.P2pkSend) : Prop where
  sent : (c.prepareP2pkSend req).code = some 0 →
    ∃ token w, c.prepareP2pkSend req = .sent token w ∧ AskedFor req (c.spendingConditions token)
  refused : Undecodable req →
    ∃ code lastError, c.prepareP2pkSend req = .refused code lastError ∧ code ≠ 0

/-- A refund key that is not UTF-8 comes with other arguments that the call accepts. -/
def DropsRefund (req : c.P2pkSend) : Prop :=
  ∃ w r s pk conditions, req.handle = some w ∧ req.outToken = some () ∧
    req.recipientPubkeyHex = some r ∧ c.Decodes r pk ∧
    req.refundPubkeyHex = some s ∧ ¬ s.bytes.IsValidUTF8 ∧
    NewConditions w req.locktimeUnix none conditions

/-- Asked-for conditions come from arguments that can be decoded. -/
theorem AskedFor.not_undecodable {req : c.P2pkSend} {conditions : SpendingConditions c.PublicKey}
    (h : AskedFor req conditions) : ¬ Undecodable req := by
  rintro (⟨s, hs, hnone⟩ | ⟨s, hs, hsize, hnone⟩)
  · obtain ⟨r, hr, hdecodes⟩ := h.recipient
    obtain rfl := Option.mem_unique hs hr
    exact hnone _ hdecodes
  · obtain ⟨pk, hpk⟩ := h.refund.decodes hs hsize
    exact hnone pk hpk

/-! ### The whole call -/

section
variable {req : c.P2pkSend} {w : c.World} {r : CStr}

theorem locksAsAsked_of_refused {code : Int32} {lastError : String}
    (h : c.prepareP2pkSend req = .refused code lastError) (hcode : code ≠ 0) :
    LocksAsAsked req where
  sent hzero := by
    rw [h] at hzero
    exact absurd (Option.some.inj hzero) hcode
  refused _ := ⟨code, lastError, h, hcode⟩

theorem locksAsAsked_of_null
    (h : req.handle = none ∨ req.recipientPubkeyHex = none ∨ req.outToken = none) :
    LocksAsAsked req := by
  have hrefused : c.prepareP2pkSend req =
      .refused 1 "Null pointer provided to hanbova_cdk_prepare_p2pk_send" := by
    unfold prepareP2pkSend
    rcases h with h | h | h <;> simp [h]
  exact locksAsAsked_of_refused hrefused (by decide)

theorem locksAsAsked_of_refuses (hw : req.handle = some w) (hr : req.recipientPubkeyHex = some r)
    (hout : req.outToken = some ())
    (h : Refuses (c.requestedConditions w r req.refundPubkeyHex req.locktimeUnix)) :
    LocksAsAsked req := by
  obtain ⟨code, lastError, he, hcode⟩ := h
  have hcall := prepareP2pkSend_eq hw hr hout
  rw [he] at hcall
  exact locksAsAsked_of_refused hcall hcode

/-- A call that hands the wallet the conditions that it was asked for. -/
theorem locksAsAsked_of_askedFor (hc : c.Lawful) (hw : req.handle = some w)
    (hr : req.recipientPubkeyHex = some r) (hout : req.outToken = some ())
    {conditions : SpendingConditions c.PublicKey}
    (h : c.requestedConditions w r req.refundPubkeyHex req.locktimeUnix = .ok conditions)
    (hasked : AskedFor req conditions) : LocksAsAsked req where
  sent hzero := by
    have hcall := prepareP2pkSend_eq hw hr hout
    rw [h] at hcall
    rw [hcall] at hzero ⊢
    obtain ⟨token, w', hsent, hlock⟩ := send_code_zero hc hzero
    exact ⟨token, w', hsent, hlock ▸ hasked⟩
  refused hundecodable := absurd hundecodable hasked.not_undecodable

end

/-- A refund key that is not UTF-8 goes unnoticed as far as the wallet. -/
theorem not_refused_of_drops {req : c.P2pkSend} (h : DropsRefund req) (code : Int32)
    (lastError : String) : c.prepareP2pkSend req ≠ .refused code lastError := by
  obtain ⟨w, r, s, pk, conditions, hw, hout, hr, hpk, hs, hinvalid, hnew⟩ := h
  have hrequested : c.requestedConditions w r req.refundPubkeyHex req.locktimeUnix =
      .ok ⟨pk, conditions⟩ := by
    rw [hs]
    exact requestedConditions_of_new (recipientKey_ok.mpr hpk) (refundPubkeys_of_not_valid hinvalid)
      hnew
  rw [prepareP2pkSend_eq hw hr hout, hrequested]
  exact send_ne_refused w req.amountSats _ code lastError

/-- The library's conditions are the ones asked for when the refund keys are. -/
theorem askedFor_of_new (hc : c.Lawful) {req : c.P2pkSend} {w : c.World} {r : CStr}
    {pk : c.PublicKey} {keys : Option (List c.PublicKey)} {conditions : Conditions c.PublicKey}
    (hr : req.recipientPubkeyHex = some r) (hpk : c.Decodes r pk)
    (hkeys : c.RefundAsked req.refundPubkeyHex keys)
    (h : NewConditions w req.locktimeUnix keys conditions) : AskedFor req ⟨pk, conditions⟩ := by
  obtain rfl := hc.newConditions_ok _ _ _ _ _ _ _ _ h
  exact ⟨⟨r, hr, hpk⟩, rfl, hkeys, rfl, rfl, rfl, rfl⟩

/-- A call that gets as far as reading the keys, and drops none of them. -/
theorem locksAsAsked_of_kept (hc : c.Lawful) {req : c.P2pkSend} {w : c.World} {r : CStr}
    (hw : req.handle = some w) (hr : req.recipientPubkeyHex = some r)
    (hout : req.outToken = some ()) (hkept : ¬ DropsRefund req) : LocksAsAsked req := by
  rcases recipientKey_cases (c := c) r with ⟨pk, hpk⟩ | hrefuses
  · have hdecodes := recipientKey_ok.mp hpk
    by_cases hvalid : ∀ s ∈ req.refundPubkeyHex, s.bytes.IsValidUTF8
    · rcases refundPubkeys_of_valid (c := c) hvalid with ⟨keys, hkeys, hasked⟩ | hrefuses
      · rcases requestedConditions_cases w req.locktimeUnix hpk hkeys with
          ⟨conditions, hnew⟩ | hrefuses
        · exact locksAsAsked_of_askedFor hc hw hr hout (requestedConditions_of_new hpk hkeys hnew)
            (askedFor_of_new hc hr hdecodes hasked hnew)
        · exact locksAsAsked_of_refuses hw hr hout hrefuses
      · exact locksAsAsked_of_refuses hw hr hout (requestedConditions_of_refund hpk hrefuses)
    · simp only [not_forall] at hvalid
      obtain ⟨s, hs, hinvalid⟩ := hvalid
      have hkeys : c.refundPubkeys req.refundPubkeyHex = .ok none := by
        rw [Option.mem_def.mp hs]
        exact refundPubkeys_of_not_valid hinvalid
      -- The refund key is dropped here, unless the library refuses the locktime.
      rcases requestedConditions_cases w req.locktimeUnix hpk hkeys with
        ⟨conditions, hnew⟩ | hrefuses
      · exact absurd
          ⟨w, r, s, pk, conditions, hw, hout, hr, hdecodes, hs, hinvalid, hnew⟩ hkept
      · exact locksAsAsked_of_refuses hw hr hout hrefuses
  · exact locksAsAsked_of_refuses hw hr hout (requestedConditions_of_recipient hrefuses)

/-- No key has a text that is not UTF-8. -/
theorem undecodable_of_not_valid {req : c.P2pkSend} {s : CStr} (hs : req.refundPubkeyHex = some s)
    (h : ¬ s.bytes.IsValidUTF8) : Undecodable req := by
  refine .inr ⟨s, hs, ?_, ?_⟩
  · intro hsize
    exact h (CStr.isValidUTF8_of_size_eq_zero hsize)
  · intro pk hpk
    obtain ⟨t, ht, -⟩ := hpk
    exact h (CStr.isValidUTF8_of_toStr ht)

/-- A call locks as it was asked to exactly when it does not drop a refund key. -/
theorem locksAsAsked_iff (hc : c.Lawful) (req : c.P2pkSend) :
    LocksAsAsked req ↔ ¬ DropsRefund req := by
  constructor
  · intro hlocks hdrops
    obtain ⟨-, -, s, -, -, -, -, -, -, hs, hinvalid, -⟩ := id hdrops
    obtain ⟨code, lastError, hrefused, -⟩ :=
      hlocks.refused (undecodable_of_not_valid hs hinvalid)
    exact not_refused_of_drops hdrops code lastError hrefused
  · intro hkept
    cases hw : req.handle with
    | none => exact locksAsAsked_of_null (.inl hw)
    | some w =>
      cases hr : req.recipientPubkeyHex with
      | none => exact locksAsAsked_of_null (.inr (.inl hr))
      | some r =>
        cases hout : req.outToken with
        | none => exact locksAsAsked_of_null (.inr (.inr hout))
        | some _ => exact locksAsAsked_of_kept hc hw hr hout hkept

/-- The points `G` and `2G` of the curve. -/
def generator : String := "0279be667ef9dcbbac55a06295ce870b07029bfcdb2dce28d959f2815b16f81798"

def doubled : String := "02c6047f9441ed7d6d3045406e95c07cd85c778e4b8cef3ca7abac09b95c709ee5"

/-- 100 satoshis for the first key, and from the locktime on for the second. -/
def refundable : (purse [generator, doubled]).P2pkSend where
  handle := some ⟨1700000000, 1000⟩
  amountSats := 100
  recipientPubkeyHex := some ⟨generator.toByteArray, by decide +kernel⟩
  refundPubkeyHex := some ⟨doubled.toByteArray, by decide +kernel⟩
  locktimeUnix := 1800000000
  outToken := some ()

theorem locksAsAsked_sample :
    (prepareP2pkSend _ refundable).code = some 0 ∧ LocksAsAsked refundable := by
  refine ⟨by decide +kernel, (locksAsAsked_iff (purse_lawful _) refundable).mpr ?_⟩
  intro hdrops
  obtain ⟨-, -, s, -, -, -, -, -, -, hs, hinvalid, -⟩ := hdrops
  obtain rfl := Option.some.inj hs
  exact hinvalid doubled.isValidUTF8

/-- The refund argument is a single byte that begins no character. -/
def unreadable : (purse [generator, doubled]).P2pkSend :=
  { refundable with refundPubkeyHex := some ⟨⟨#[0xFF]⟩, by decide +kernel⟩ }

theorem unreadable_dropped :
    (prepareP2pkSend _ unreadable).code = some 0 ∧ ¬ LocksAsAsked unreadable := by
  have hcode : (prepareP2pkSend _ unreadable).code = some 0 := by decide +kernel
  refine ⟨hcode, ?_⟩
  intro hlocks
  obtain ⟨code, lastError, hrefused, hne⟩ :=
    hlocks.refused (undecodable_of_not_valid rfl (by decide +kernel))
  rw [hrefused] at hcode
  exact hne (Option.some.inj hcode)

end Hanbova.CdkWallet
