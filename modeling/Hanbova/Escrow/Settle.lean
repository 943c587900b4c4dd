import Hanbova.Escrow.Cashu

/-! What a claim and a refund do to a tracked payment. -/
namespace Hanbova

open Library Library.Text

namespace CashuProtectedPaymentProvider
variable {c : Cdk}

theorem settle_cases {w w' : c.World} {t t' : TrackedPayment} {tokenStr : String}
    {key : c.SecretKey} {how : Settlement} {now : DateTime}
    {answer : Except ProtectedPaymentError ProtectedPaymentReceipt}
    (h : settle w t tokenStr key how now = (answer, t', w')) :
    (∃ amount, c.receive w tokenStr [key] = (.ok amount, w') ∧
      t' = { t with intent := (how.win t.intent).1 } ∧
      ∀ m, answer ≠ .error (.tokenAlreadySpent m)) ∨
    (∃ e, c.receive w tokenStr [key] = (.error e, w') ∧ Cdk.alreadySpent e = true ∧
      t' = { t with intent := (t.intent.progress how.guess now).1 } ∧
      answer = .error (.tokenAlreadySpent how.spentText)) ∨
    (∃ e, c.receive w tokenStr [key] = (.error e, w') ∧ t' = t ∧
      answer = .error (.cdk (how.failure ++ e))) := by
  unfold settle at h
  match hr : c.receive w tokenStr [key] with
  | (.ok amount, w'') =>
    match hw : how.win t.intent with
    | (intent, .error e) =>
      simp only [hr, hw, Prod.mk.injEq] at h
      obtain ⟨rfl, rfl, rfl⟩ := h
      exact .inl ⟨amount, rfl, rfl, by simp⟩
    | (intent, .ok ()) =>
      simp only [hr, hw, Prod.mk.injEq] at h
      obtain ⟨rfl, rfl, rfl⟩ := h
      exact .inl ⟨amount, rfl, rfl, by simp⟩
  | (.error e, w'') =>
    simp only [hr] at h
    split_ifs at h with he
    · simp only [Prod.mk.injEq] at h
      obtain ⟨rfl, rfl, rfl⟩ := h
      exact .inr (.inl ⟨e, rfl, he, rfl, rfl⟩)
    · simp only [Prod.mk.injEq] at h
      obtain ⟨rfl, rfl, rfl⟩ := h
      exact .inr (.inr ⟨e, rfl, rfl, rfl⟩)

/-- A call that settles leaves its record in place of the old one. -/
theorem settleAt_eq {intents intents' : Intents} {w w' : c.World} {id : Uuid} {t : TrackedPayment}
    {tokenStr : String} {key : c.SecretKey} {how : Settlement} {now : DateTime}
    {answer : Except ProtectedPaymentError ProtectedPaymentReceipt}
    (h : settleAt intents w id t tokenStr key how now = (answer, intents', w')) :
    ∃ t', settle w t tokenStr key how now = (answer, t', w') ∧
      Table.SetAt intents id t' intents' := by
  unfold settleAt at h
  match hs : settle w t tokenStr key how now with
  | (answer', t', w'') =>
    simp only [hs, Prod.mk.injEq] at h
    obtain ⟨rfl, rfl, rfl⟩ := h
    exact ⟨t', rfl, Table.setAt_insert _ _ _⟩

/-- A claim is refused before it comes to the mint, or settles. -/
theorem claimPayment_cases {intents intents' : Intents} {w w' : c.World}
    {request : ClaimPaymentRequest} {now : DateTime}
    {answer : Except ProtectedPaymentError ProtectedPaymentReceipt}
    (h : claimPayment intents w request now = (answer, intents', w')) :
    (intents' = intents ∧ w' = w ∧ ∀ m, answer ≠ .error (.tokenAlreadySpent m)) ∨
    ∃ t t' key, intents.lookup request.paymentId = some t ∧
      c.parseSecretKey request.claimProof = .ok key ∧
      settle w t (presented request.cashuToken t) key (claimSettlement now) now =
        (answer, t', w') ∧ Table.SetAt intents request.paymentId t' intents' := by
  unfold claimPayment at h
  cases hl : intents.lookup request.paymentId with
  | none =>
    simp only [hl, Prod.mk.injEq] at h
    obtain ⟨rfl, rfl, rfl⟩ := h
    exact .inl ⟨rfl, rfl, by simp⟩
  | some t =>
    cases hk : c.parseSecretKey request.claimProof with
    | error e =>
      simp only [hl, hk, Prod.mk.injEq] at h
      obtain ⟨rfl, rfl, rfl⟩ := h
      exact .inl ⟨rfl, rfl, by simp⟩
    | ok key =>
      simp only [hl, hk] at h
      obtain ⟨t', hs, hm⟩ := settleAt_eq h
      exact .inr ⟨t, t', key, rfl, rfl, hs, hm⟩

theorem refundPayment_cases {intents intents' : Intents} {w w' : c.World}
    {request : RefundPaymentRequest} {now now₁ now₂ : DateTime}
    {answer : Except ProtectedPaymentError ProtectedPaymentReceipt}
    (h : refundPayment intents w request now now₁ now₂ = (answer, intents', w')) :
    (intents' = intents ∧ w' = w ∧ ∀ m, answer ≠ .error (.tokenAlreadySpent m)) ∨
    ∃ t t' proof key, intents.lookup request.paymentId = some t ∧ t.locktime ≤ now ∧
      request.refundProof = some proof ∧ c.parseSecretKey proof = .ok key ∧
      settle w t (presented request.cashuToken t) key (refundSettlement now₁ now₂) now₁ =
        (answer, t', w') ∧ Table.SetAt intents request.paymentId t' intents' := by
  unfold refundPayment at h
  cases hl : intents.lookup request.paymentId with
  | none =>
    simp only [hl, Prod.mk.injEq] at h
    obtain ⟨rfl, rfl, rfl⟩ := h
    exact .inl ⟨rfl, rfl, by simp⟩
  | some t =>
    simp only [hl] at h
    split_ifs at h with ht
    · simp only [Prod.mk.injEq] at h
      obtain ⟨rfl, rfl, rfl⟩ := h
      exact .inl ⟨rfl, rfl, by simp⟩
    · cases hp : request.refundProof with
      | none =>
        simp only [hp, Prod.mk.injEq] at h
        obtain ⟨rfl, rfl, rfl⟩ := h
        exact .inl ⟨rfl, rfl, by simp⟩
      | some proof =>
        cases hk : c.parseSecretKey proof with
        | error e =>
          simp only [hp, hk, Prod.mk.injEq] at h
          obtain ⟨rfl, rfl, rfl⟩ := h
          exact .inl ⟨rfl, rfl, by simp⟩
        | ok key =>
          simp only [hp, hk] at h
          obtain ⟨t', hs, hm⟩ := settleAt_eq h
          exact .inr ⟨t, t', proof, key, rfl, not_lt.mp ht, rfl, hk, hs, hm⟩

/-! ### The statuses between calls -/

/-- The statuses that a tracked payment has between two calls. -/
def AtRest (i : PaymentIntent) : Prop :=
  i.status = .claimable ∨ i.status = .claimed ∨ i.status = .refunded

/-- A settlement keeps the terms of the payment and moves it from claimable to `won` after a swap
and to `lost` for a token spent before; settled payments stay as they are. -/
structure Settlement.Moves (how : Settlement) (won lost : PaymentStatus) : Prop where
  terms : ∀ i : PaymentIntent, i.SameTerms (how.win i).1
  win : ∀ i, AtRest i → (how.win i).1.status = if i.status = .claimable then won else i.status
  guess : ∀ i now, AtRest i →
    (i.progress how.guess now).1.status = if i.status = .claimable then lost else i.status

theorem status_progress_of_atRest {i : PaymentIntent} {next : PaymentStatus} (hi : AtRest i)
    (hc : PaymentStatus.claimable.canTransitionTo next = true) (now : DateTime) :
    (i.progress next now).1.status = if i.status = .claimable then next else i.status := by
  rcases hi with h | h | h
  · rw [PaymentIntent.progress_of_legal (h ▸ hc), if_pos h]
  all_goals
    rw [PaymentIntent.status_progress_of_terminal (by rw [h]; rfl), h]
    rfl

theorem status_progress_of_atRest_illegal {i : PaymentIntent} {next : PaymentStatus} (hi : AtRest i)
    (hc : PaymentStatus.claimable.canTransitionTo next = false) (now : DateTime) :
    (i.progress next now).1.status = i.status := by
  rcases hi with h | h | h
  · obtain ⟨e, he⟩ := PaymentIntent.progress_of_illegal (h ▸ hc) now
    rw [he]
  all_goals exact PaymentIntent.status_progress_of_terminal (by rw [h]; rfl) next now

/-- A claim never reports that the payment has been refunded: that is no step from claimable. -/
theorem claimSettlement_moves (now : DateTime) :
    (claimSettlement now).Moves .claimed .claimable where
  terms i := i.sameTerms_progress _ _
  win i hi := status_progress_of_atRest hi rfl now
  guess i now hi := by
    have h : (i.progress (claimSettlement now).guess now).1.status = i.status :=
      status_progress_of_atRest_illegal hi rfl now
    show (i.progress (claimSettlement now).guess now).1.status = _
    rw [h]
    split_ifs with hc
    · exact hc
    · rfl

theorem refundSettlement_moves (now₁ now₂ : DateTime) :
    (refundSettlement now₁ now₂).Moves .refunded .claimed where
  terms i := by
    simp only [refundSettlement]
    split_ifs
    · exact (i.sameTerms_progress _ _).trans (PaymentIntent.sameTerms_progress _ _ _)
    · exact i.sameTerms_progress _ _
  win i hi := by
    have hne : i.status ≠ .refundAvailable := by
      rcases hi with h | h | h <;> rw [h] <;> decide
    simp only [refundSettlement, if_pos hne]
    rcases hi with h | h | h
    · have h₁ : i.status.canTransitionTo .refundAvailable = true := by rw [h]; rfl
      rw [PaymentIntent.progress_of_legal h₁, PaymentIntent.progress_of_legal rfl, if_pos h]
    all_goals
      have ht : i.status.isTerminal = true := by rw [h]; rfl
      have h₁ := PaymentIntent.status_progress_of_terminal ht .refundAvailable now₁
      rw [PaymentIntent.status_progress_of_terminal (h₁ ▸ ht), h₁, h]
      rfl
  guess i now hi := status_progress_of_atRest hi rfl now

/-- The record is the new intent under its identifier, made claimable, with the token and the
conditions of the request. -/
theorem buildTracked_eq_ok {l : LockRequest c} {tokenStr : String} {id : Uuid}
    {now now₁ now₂ : DateTime} {t : TrackedPayment} :
    buildTracked l tokenStr id now now₁ now₂ = .ok t ↔
      ∃ i, PaymentIntent.new .«protected» l.request.amountSats l.request.recipientIdentifier
        l.request.senderId l.request.description (some l.conditionsInput.locktime) id now =
          .ok i ∧
        ⟨{ i with
            id := l.request.paymentId.getD i.id
            status := .claimable
            updatedAt := now₂
            claimReference := some ("hnbv_claim_" ++ (l.request.paymentId.getD i.id).simple) },
          tokenStr, l.conditionsInput.recipientPubkey, l.conditionsInput.refundPubkey,
          l.conditionsInput.locktime⟩ = t := by
  unfold buildTracked
  cases hn : PaymentIntent.new .«protected» l.request.amountSats l.request.recipientIdentifier
      l.request.senderId l.request.description (some l.conditionsInput.locktime) id now with
  | error e => simp [Except.mapError, bind, Except.bind]
  | ok i =>
    obtain ⟨-, -, -, rfl⟩ := PaymentIntent.new_ok hn
    have h₁ : PaymentStatus.created.canTransitionTo .«protected» = true := rfl
    have h₂ : PaymentStatus.«protected».canTransitionTo .claimable = true := rfl
    simp [Except.mapError, bind, Except.bind, PaymentIntent.updateStatus,
      PaymentStatus.transitionTo, h₁, h₂]

/-- A new record is claimable and lies under the identifier of the request, if that names one. -/
theorem buildTracked_ok {l : LockRequest c} {tokenStr : String} {id : Uuid}
    {now now₁ now₂ : DateTime} {t : TrackedPayment}
    (h : buildTracked l tokenStr id now now₁ now₂ = .ok t) :
    t.intent.status = .claimable ∧ t.cashuToken = tokenStr ∧
      t.intent.id = l.request.paymentId.getD id ∧
      t.intent.amountSats = l.request.amountSats := by
  obtain ⟨i, hn, rfl⟩ := buildTracked_eq_ok.mp h
  obtain ⟨-, -, -, rfl⟩ := PaymentIntent.new_ok hn
  exact ⟨rfl, rfl, rfl, rfl⟩

theorem world_of_prepareSend {w w' : c.World} {l : LockRequest c}
    {answer : Except ProtectedPaymentError c.PreparedSend}
    (h : prepareSend w l = (answer, w')) :
    (c.prepareSend w l.request.amountSats.sats l.recipientPubkey l.spendingConditions).2 = w' := by
  unfold prepareSend at h
  match hp : c.prepareSend w l.request.amountSats.sats l.recipientPubkey l.spendingConditions with
  | (.error e, w'') =>
    simp only [hp, Prod.mk.injEq] at h
    exact h.2
  | (.ok send, w'') =>
    simp only [hp, Prod.mk.injEq] at h
    exact h.2

theorem world_of_confirm {w w' : c.World} {l : LockRequest c} {send : c.PreparedSend} {id : Uuid}
    {now now₁ now₂ : DateTime} {answer : Except ProtectedPaymentError TrackedPayment}
    (h : confirm w l send id now now₁ now₂ = (answer, w')) : (c.confirm w send).2 = w' := by
  unfold confirm at h
  match hp : c.confirm w send with
  | (.error e, w'') =>
    simp only [hp, Prod.mk.injEq] at h
    exact h.2
  | (.ok token, w'') =>
    simp only [hp, Prod.mk.injEq] at h
    exact h.2

theorem confirm_ok {w w' : c.World} {l : LockRequest c} {send : c.PreparedSend} {id : Uuid}
    {now now₁ now₂ : DateTime} {t : TrackedPayment}
    (h : confirm w l send id now now₁ now₂ = (.ok t, w')) :
    t.intent.status = .claimable ∧ t.intent.id = l.request.paymentId.getD id := by
  unfold confirm at h
  match hp : c.confirm w send with
  | (.error e, w'') =>
    simp only [hp, Prod.mk.injEq] at h
    cases h.1
  | (.ok token, w'') =>
    simp only [hp, Prod.mk.injEq] at h
    obtain ⟨hst, -, hid, -⟩ := buildTracked_ok h.1
    exact ⟨hst, hid⟩

end CashuProtectedPaymentProvider
end Hanbova
