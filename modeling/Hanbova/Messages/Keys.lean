import Hanbova.Library.History
import Hanbova.Library.Stages
import Hanbova.Messages.Handlers

/-! Publishing payment keys: `update_payment_keys_handler`, and whether the keys that are stored and
served pass the handler's own checks. -/
namespace Hanbova

open Library Library.Text
open InMemoryUserRepository (Users)
open InMemoryProtectedMessageRepository (PaymentKeys)

structure UpdatePaymentKeysRequest where
  protectedPaymentPubkey : String
  transportEncryptionPubkey : String
  walletEnvironment : Option String
  deriving DecidableEq

/-- The body of the answer to an accepted request. -/
structure UpdatePaymentKeysResponse where
  message : String
  username : String
  walletEnvironment : String
  deriving DecidableEq

/-- The outside checks of key texts: `secp256k1::PublicKey::from_str` and `hex::decode`. -/
structure KeyCodec where
  isPoint : String → Bool
  isHex : String → Bool

/-- `upsert_user_payment_keys`. -/
def InMemoryProtectedMessageRepository.upsertUserPaymentKeys (keys : PaymentKeys) (userId : Uuid)
    (walletEnvironment protectedPubkey transportPubkey : String) : PaymentKeys :=
  keys.insert (userId, walletEnvironment) (protectedPubkey, transportPubkey)

namespace UpdatePaymentKeys
variable (K : KeyCodec)

def checkPaymentKey (key : String) : Except ApiError Unit :=
  if len key ≠ 66 || (!startsWith key "02" && !startsWith key "03") then
    .error (.badRequest ("Protected payment public key must be a 33-byte compressed " ++
      "secp256k1 hex string (66 chars, 02/03 prefix)"))
  else if !K.isPoint key then
    .error (.badRequest "Invalid secp256k1 elliptic curve public key point")
  else .ok ()

def checkTransportKey (key : String) : Except ApiError Unit :=
  if len key ≠ 64 || !K.isHex key then
    .error (.badRequest
      "Transport encryption public key must be a 32-byte X25519 hex string (64 chars)")
  else .ok ()

/-- `update_payment_keys_handler`: the checks see the trimmed keys, the store the given ones. -/
def run (keys : PaymentKeys) (authUser : AuthUser) (payload : UpdatePaymentKeysRequest) :
    Except ApiError (UpdatePaymentKeysResponse × PaymentKeys) := do
  let cleanP2pk := trim payload.protectedPaymentPubkey
  checkPaymentKey K cleanP2pk
  let cleanTransport := trim payload.transportEncryptionPubkey
  checkTransportKey K cleanTransport
  let walletEnv := payload.walletEnvironment.getD "cashu_test"
  let keys' := InMemoryProtectedMessageRepository.upsertUserPaymentKeys keys authUser.userId
    walletEnv payload.protectedPaymentPubkey payload.transportEncryptionPubkey
  .ok (⟨"Payment keys updated successfully", authUser.username, walletEnv⟩, keys')

variable {K}

theorem run_ok {keys keys' : PaymentKeys} {authUser : AuthUser}
    {payload : UpdatePaymentKeysRequest} {answer : UpdatePaymentKeysResponse}
    (h : run K keys authUser payload = .ok (answer, keys')) :
    checkPaymentKey K (trim payload.protectedPaymentPubkey) = .ok () ∧
      checkTransportKey K (trim payload.transportEncryptionPubkey) = .ok () ∧
      Table.SetAt keys (authUser.userId, payload.walletEnvironment.getD "cashu_test")
        (payload.protectedPaymentPubkey, payload.transportEncryptionPubkey) keys' := by
  unfold run at h
  obtain ⟨⟨⟩, hpayment, h⟩ := Stages.bind_ok.mp h
  obtain ⟨⟨⟩, htransport, h⟩ := Stages.bind_ok.mp h
  refine ⟨hpayment, htransport, ?_⟩
  rw [← (Prod.mk.inj (Except.ok.inj h)).2]
  exact Table.setAt_insert _ _ _

theorem checkPaymentKey_ok {key : String} :
    checkPaymentKey K key = .ok () ↔
      len key = 66 ∧ (startsWith key "02" = true ∨ startsWith key "03" = true) ∧
        K.isPoint key = true := by
  unfold checkPaymentKey
  by_cases hl : len key = 66 <;> cases startsWith key "02" <;> cases startsWith key "03" <;>
    cases K.isPoint key <;> simp [hl]

theorem checkTransportKey_ok {key : String} :
    checkTransportKey K key = .ok () ↔ len key = 64 ∧ K.isHex key = true := by
  unfold checkTransportKey
  by_cases hl : len key = 64 <;> cases K.isHex key <;> simp [hl]

end UpdatePaymentKeys

inductive PaymentKeyEvent
  | refused (authUser : AuthUser) (payload : UpdatePaymentKeysRequest) (e : ApiError)
  | updated (authUser : AuthUser) (payload : UpdatePaymentKeysRequest)
      (answer : UpdatePaymentKeysResponse)

inductive PaymentKeyStep (K : KeyCodec) : PaymentKeys → PaymentKeyEvent → PaymentKeys → Prop
  | refused {keys authUser payload e} :
      UpdatePaymentKeys.run K keys authUser payload = .error e →
      PaymentKeyStep K keys (.refused authUser payload e) keys
  | updated {keys keys' authUser payload answer} :
      UpdatePaymentKeys.run K keys authUser payload = .ok (answer, keys') →
      PaymentKeyStep K keys (.updated authUser payload answer) keys'

/-- Requests to publish keys, by anyone and for any environment, from an empty store on. -/
def paymentKeySystem (K : KeyCodec) : System PaymentKeys PaymentKeyEvent where
  init keys := keys = ∅
  step := PaymentKeyStep K

/-- A pair of key texts that passes the checks of the handler as it stands. -/
structure WellFormedKeys (K : KeyCodec) (pair : String × String) : Prop where
  payment_len : len pair.1 = 66
  payment_prefix : startsWith pair.1 "02" = true ∨ startsWith pair.1 "03" = true
  payment_point : K.isPoint pair.1 = true
  transport_len : len pair.2 = 64
  transport_hex : K.isHex pair.2 = true

/-- Every pair in the store is well formed, and so is every pair that is served from it. -/
structure PublishedWellFormed (K : KeyCodec) (keys : PaymentKeys) : Prop where
  stored : ∀ k pair, keys.lookup k = some pair → WellFormedKeys K pair
  served : ∀ (T : CaseTable) (users : Users) username environment p,
    getPaymentProfile T users keys username environment = .ok p →
    WellFormedKeys K (p.protectedPaymentPubkey, p.transportEncryptionPubkey)

/-- A request is accepted although one of its keys has whitespace around it. -/
def AcceptsPadded (x : Transition PaymentKeys PaymentKeyEvent) : Prop :=
  ∃ authUser payload answer, x.label = .updated authUser payload answer ∧
    (trim payload.protectedPaymentPubkey ≠ payload.protectedPaymentPubkey ∨
      trim payload.transportEncryptionPubkey ≠ payload.transportEncryptionPubkey)

variable {K : KeyCodec} {keys keys' : PaymentKeys}

theorem wellFormedKeys_iff {pair : String × String} :
    WellFormedKeys K pair ↔ UpdatePaymentKeys.checkPaymentKey K pair.1 = .ok () ∧
      UpdatePaymentKeys.checkTransportKey K pair.2 = .ok () := by
  rw [UpdatePaymentKeys.checkPaymentKey_ok, UpdatePaymentKeys.checkTransportKey_ok]
  constructor
  · intro h
    exact ⟨⟨h.payment_len, h.payment_prefix, h.payment_point⟩, h.transport_len,
      h.transport_hex⟩
  · intro h
    exact ⟨h.1.1, h.1.2.1, h.1.2.2, h.2.1, h.2.2⟩

/-- What is served is what is stored. -/
theorem publishedWellFormed_of_stored (h : ∀ k pair, keys.lookup k = some pair →
    WellFormedKeys K pair) : PublishedWellFormed K keys where
  stored := h
  served T users username environment p hp := by
    obtain ⟨u, -, -, hk⟩ :=
      InMemoryProtectedMessageRepository.findPaymentProfileByUsername_some
        (getPaymentProfile_ok.mp hp)
    exact h _ _ hk

theorem stored_of_trace {tr : List (Transition PaymentKeys PaymentKeyEvent)}
    (h : (paymentKeySystem K).Trace tr keys) (hx : ∀ x ∈ tr, ¬ AcceptsPadded x) :
    ∀ k pair, keys.lookup k = some pair → WellFormedKeys K pair := by
  revert hx
  refine h.induct (P := fun tr keys => (∀ x ∈ tr, ¬ AcceptsPadded x) →
    ∀ k pair, keys.lookup k = some pair → WellFormedKeys K pair) ?_ ?_
  · intro keys hk _ k pair hp
    obtain rfl : keys = ∅ := hk
    simp at hp
  · intro tr keys e keys' _ ih hl hx
    have hold := ih fun x hmem => hx x (List.mem_append_left _ hmem)
    have hlast : ¬ AcceptsPadded ⟨keys, e, keys'⟩ := hx _ (by simp)
    cases hl with
    | refused _ => exact hold
    | @updated _ authUser payload answer hr =>
      obtain ⟨hp, ht, hm⟩ := UpdatePaymentKeys.run_ok hr
      have hclean : trim payload.protectedPaymentPubkey = payload.protectedPaymentPubkey ∧
          trim payload.transportEncryptionPubkey = payload.transportEncryptionPubkey := by
        rw [← not_not (a := _ ∧ _), not_and_or]
        intro hpad
        exact hlast ⟨authUser, payload, answer, rfl, hpad⟩
      rw [hclean.1] at hp
      rw [hclean.2] at ht
      intro k pair hpair
      rw [hm k] at hpair
      split_ifs at hpair
      · rw [← Option.some.inj hpair]
        exact wellFormedKeys_iff.mpr ⟨hp, ht⟩
      · exact hold k pair hpair

/-- The padding makes a stored key too long. -/
theorem not_published_of_padded {x : Transition PaymentKeys PaymentKeyEvent}
    (hl : PaymentKeyStep K x.pre x.label x.post) (hx : AcceptsPadded x) :
    ¬ PublishedWellFormed K x.post := by
  obtain ⟨pre, e, post⟩ := x
  obtain ⟨authUser, payload, answer, rfl, hpad⟩ := hx
  simp only at hl ⊢
  cases hl with
  | updated hr =>
    obtain ⟨hp, ht, hm⟩ := UpdatePaymentKeys.run_ok hr
    intro hwf
    have hstored := hwf.stored _ _ hm.lookup_self
    have hp := (UpdatePaymentKeys.checkPaymentKey_ok.mp hp).1
    have ht := (UpdatePaymentKeys.checkTransportKey_ok.mp ht).1
    rcases hpad with hne | hne
    · have hlt := len_trim_lt hne
      have := hstored.payment_len
      simp only at this
      omega
    · have hlt := len_trim_lt hne
      have := hstored.transport_len
      simp only at this
      omega

/-- In every state of a run the published keys are well formed if and only if no accepted request
of the run has whitespace around a key. -/
theorem published_keys_iff {tr : List (Transition PaymentKeys PaymentKeyEvent)}
    (h : (paymentKeySystem K).Trace tr keys) :
    (paymentKeySystem K).Throughout tr (fun _ keys => PublishedWellFormed K keys) ↔
      ∀ x ∈ tr, ¬ AcceptsPadded x := by
  apply h.throughout_iff
  · intro tr₁ x _ _ hl hpad
    exact not_published_of_padded hl hpad
  · intro tr₁ keys₁ _ ht hx
    exact publishedWellFormed_of_stored (stored_of_trace ht hx)

/-- The base point of the curve as payment key, and a transport key. -/
def samplePublication : UpdatePaymentKeysRequest where
  protectedPaymentPubkey := "0279be667ef9dcbbac55a06295ce870b07029bfcdb2dce28d959f2815b16f81798"
  transportEncryptionPubkey := "8520f0098930a754748b7ddcb43ef75a0dbf3a0d26381af4eba4a98eaa9b4e6a"
  walletEnvironment := none

/-- Checks that accept the keys of the sample, and no text with a blank in it. -/
def sampleCodec : KeyCodec where
  isPoint key := key == samplePublication.protectedPaymentPubkey
  isHex key := key == samplePublication.transportEncryptionPubkey

def sampleOwner : AuthUser := ⟨.ofNat 1, "bob"⟩

def sampleUpdated : UpdatePaymentKeysResponse :=
  ⟨"Payment keys updated successfully", "bob", "cashu_test"⟩

/-- The store after Bob's first publication. -/
def samplePublished (payload : UpdatePaymentKeysRequest) : PaymentKeys :=
  Table.insert ∅ (.ofNat 1, "cashu_test")
    (payload.protectedPaymentPubkey, payload.transportEncryptionPubkey)

theorem published_keys_sample :
    ∃ tr keys, (paymentKeySystem sampleCodec).Trace tr keys ∧
      keys.lookup (.ofNat 1, "cashu_test") = some (samplePublication.protectedPaymentPubkey,
        samplePublication.transportEncryptionPubkey) ∧
      ((paymentKeySystem sampleCodec).Throughout tr
        (fun _ keys => PublishedWellFormed sampleCodec keys) ↔
        ∀ x ∈ tr, ¬ AcceptsPadded x) := by
  have hl : PaymentKeyStep sampleCodec ∅ (.updated sampleOwner samplePublication sampleUpdated)
      (samplePublished samplePublication) := .updated (by decide +kernel)
  have ht : (paymentKeySystem sampleCodec).Trace _ _ := ⟨∅, rfl, .single hl⟩
  exact ⟨_, _, ht, by decide +kernel, published_keys_iff ht⟩

/-- Bob publishes his payment key with a blank in front. -/
theorem not_published_keys :
    ∃ tr keys, (paymentKeySystem sampleCodec).Trace tr keys ∧
      ¬ PublishedWellFormed sampleCodec keys := by
  let padded := { samplePublication with
    protectedPaymentPubkey := " " ++ samplePublication.protectedPaymentPubkey }
  have hl : PaymentKeyStep sampleCodec ∅ (.updated sampleOwner padded sampleUpdated)
      (samplePublished padded) := .updated (by decide +kernel)
  refine ⟨_, _, ⟨∅, rfl, .single hl⟩, not_published_of_padded (x := ⟨_, _, _⟩) hl ?_⟩
  exact ⟨sampleOwner, padded, sampleUpdated, rfl, .inl (by decide +kernel)⟩

end Hanbova
