import Hanbova.Escrow.Ledger
import Hanbova.Library.Total

/-! The reported balance: what a wallet can spend and what lies in active payments never exceed
what the wallet had at first and what has come in since. -/
namespace Hanbova

open Library Library.Text
open CashuProtectedPaymentProvider (Intents AtRest presented protectedOutgoing getWalletBalance)

/-- Books about a wallet library: what the proofs of a wallet are worth, also while they are held
back for a prepared send, and what a token and a prepared send are worth. -/
structure Cdk.Books (c : Cdk) where
  funds : c.World → ℕ
  worth : c.Token → ℕ
  promised : c.PreparedSend → ℕ

/-- What is assumed of the wallet library: it sends what was asked for and pays for it, it receives
at most what the token is worth, and nothing else adds to a wallet. -/
structure Cdk.Books.Balanced {c : Cdk} (a : c.Books) : Prop where
  totalBalance_le : ∀ w b, c.totalBalance w = .ok b → b.toNat ≤ a.funds w
  prepareSend_le : ∀ w amount pk conditions,
    a.funds (c.prepareSend w amount pk conditions).2 ≤ a.funds w
  prepareSend_ok : ∀ w amount pk conditions send w',
    c.prepareSend w amount pk conditions = (.ok send, w') → a.promised send = amount.toNat
  confirm_le : ∀ w send, a.funds (c.confirm w send).2 ≤ a.funds w
  confirm_ok : ∀ w send token w', c.confirm w send = (.ok token, w') →
    a.funds w' + a.promised send ≤ a.funds w ∧ a.worth token = a.promised send ∧
      c.decode (c.encode token) = some token
  receive_ok : ∀ w s keys amount w' token, c.receive w s keys = (.ok amount, w') →
    c.decode s = some token → a.funds w' ≤ a.funds w + a.worth token
  receive_error : ∀ w s keys e w', c.receive w s keys = (.error e, w') →
    a.funds w' ≤ a.funds w

namespace CashuProtectedPaymentProvider
variable {c : Cdk} {a : c.Books} {w w' : c.World}

theorem prepareSend_books (ha : a.Balanced) {l : LockRequest c}
    {answer : Except ProtectedPaymentError c.PreparedSend}
    (h : prepareSend w l = (answer, w')) : a.funds w' ≤ a.funds w ∧
      ∀ send, answer = .ok send → a.promised send = l.request.amountSats.sats.toNat := by
  constructor
  · have hle := ha.prepareSend_le w l.request.amountSats.sats l.recipientPubkey l.spendingConditions
    rwa [world_of_prepareSend h] at hle
  · rintro send rfl
    unfold prepareSend at h
    match hp : c.prepareSend w l.request.amountSats.sats l.recipientPubkey l.spendingConditions with
    | (.error e, w'') =>
      simp only [hp, Prod.mk.injEq] at h
      cases h.1
    | (.ok send', w'') =>
      simp only [hp, Prod.mk.injEq] at h
      cases h.1
      exact ha.prepareSend_ok _ _ _ _ _ _ hp

/-- A new record holds a token that is worth its amount, and the wallet has paid for it. -/
theorem confirm_books (ha : a.Balanced) {l : LockRequest c} {send : c.PreparedSend} {id : Uuid}
    {now now₁ now₂ : DateTime} {t : TrackedPayment}
    (h : confirm w l send id now now₁ now₂ = (.ok t, w'))
    (hsend : a.promised send = l.request.amountSats.sats.toNat) :
    a.funds w' + t.intent.amountSats.sats.toNat ≤ a.funds w ∧
      ∃ token, c.decode t.cashuToken = some token ∧
        a.worth token = t.intent.amountSats.sats.toNat := by
  unfold confirm at h
  match hp : c.confirm w send with
  | (.error e, w'') =>
    simp only [hp, Prod.mk.injEq] at h
    cases h.1
  | (.ok token, w'') =>
    simp only [hp, Prod.mk.injEq] at h
    obtain ⟨hb, rfl⟩ := h
    obtain ⟨-, htoken, -, hamount⟩ := buildTracked_ok hb
    obtain ⟨hpaid, hworth, hdecode⟩ := ha.confirm_ok _ _ _ _ hp
    rw [htoken, hamount, ← hsend]
    exact ⟨hpaid, token, hdecode, hworth⟩

end CashuProtectedPaymentProvider

/-- The sum over the active payments, without a bound on its size. -/
def CashuProtectedPaymentProvider.activeSats (intents : Intents) : ℕ :=
  intents.total fun t => if t.intent.status.isActive then t.intent.amountSats.sats.toNat else 0

theorem CashuProtectedPaymentProvider.toNat_protectedOutgoing (intents : Intents) :
    (protectedOutgoing intents).toNat = activeSats intents % 2 ^ 64 := by
  have h := toNat_foldl_add (fun t : TrackedPayment => t.intent.status.isActive)
    (fun t => t.intent.amountSats.sats) intents.values 0
  rwa [UInt64.toNat_zero, Nat.zero_add] at h

namespace EscrowState
variable {c : Cdk} {mintUrl : String} {s t : EscrowState c} {e : EscrowEvent c} {a : c.Books}

/-! ### What a payment may still be worth -/

open Classical in
/-- The amount of a payment that is active or has an unspent token. -/
noncomputable def outstanding (w : c.World) (r : TrackedPayment) : ℕ :=
  if r.intent.status.isActive ∨ ¬ c.Spent w r.cashuToken then r.intent.amountSats.sats.toNat
  else 0

theorem outstanding_le (w : c.World) (r : TrackedPayment) :
    outstanding w r ≤ r.intent.amountSats.sats.toNat := by
  unfold outstanding
  split_ifs
  · exact Nat.le_refl _
  · exact Nat.zero_le _

theorem active_le_outstanding (w : c.World) (r : TrackedPayment) :
    (if r.intent.status.isActive then r.intent.amountSats.sats.toNat else 0) ≤ outstanding w r := by
  unfold outstanding
  split_ifs with hactive hopen
  · exact Nat.le_refl _
  · exact absurd (.inl hactive) hopen
  · exact Nat.zero_le _
  · exact Nat.zero_le _

/-- It becomes no more for a payment that stays inactive and whose token stays spent. -/
theorem outstanding_anti {w w' : c.World} {r r' : TrackedPayment} (hw : c.Later w w')
    (htoken : r'.cashuToken = r.cashuToken) (hamount : r'.intent.amountSats = r.intent.amountSats)
    (hactive : r'.intent.status.isActive → r.intent.status.isActive) :
    outstanding w' r' ≤ outstanding w r := by
  unfold outstanding
  rw [htoken, hamount]
  split_ifs with h' h
  · exact Nat.le_refl _
  · refine absurd (h'.imp hactive fun hopen hspent => hopen ?_) h
    exact hspent.later hw
  · exact Nat.zero_le _
  · exact Nat.zero_le _

theorem outstanding_later {w w' : c.World} (hw : c.Later w w') (r : TrackedPayment) :
    outstanding w' r ≤ outstanding w r := outstanding_anti hw rfl rfl id

end EscrowState

/-- The token of the payment is worth its amount. -/
def TrackedPayment.Backed {c : Cdk} (a : c.Books) (r : TrackedPayment) : Prop :=
  ∃ token, c.decode r.cashuToken = some token ∧ a.worth token = r.intent.amountSats.sats.toNat

namespace PendingLock
variable {c : Cdk}

/-- What a payment that is being created has taken from the wallet. -/
noncomputable def outstanding (w : c.World) : PendingLock c → ℕ
  | .locked _ r => EscrowState.outstanding w r
  | _ => 0

def Covered (a : c.Books) : PendingLock c → Prop
  | .checked _ => True
  | .prepared l send => a.promised send = l.request.amountSats.sats.toNat
  | .locked _ r => r.Backed a

end PendingLock

namespace EscrowState
variable {c : Cdk} {mintUrl : String} {s t : EscrowState c} {e : EscrowEvent c} {a : c.Books}

/-- The wallet, the tracked payments and those about to be tracked. -/
noncomputable def estate (a : c.Books) (s : EscrowState c) : ℕ :=
  a.funds s.world + s.intents.total (outstanding s.world) +
    (s.creating.map (PendingLock.outstanding s.world)).sum

/-! ### What comes in from outside -/

/-- A step that others than the payments may pay for: the wallet is used besides, or a call
presents another token than that of its payment. -/
def Outside (x : Transition (EscrowState c) (EscrowEvent c)) : Prop :=
  x.label = .external ∨ ∃ call answer r, x.label.call = some (call, answer) ∧
    x.pre.intents.lookup call.paymentId = some r ∧
    c.decode (presented call.cashuToken r) ≠ c.decode r.cashuToken

open Classical in
/-- What such a step adds to the wallet. -/
noncomputable def deposit (a : c.Books) (x : Transition (EscrowState c) (EscrowEvent c)) : ℕ :=
  if Outside x then a.funds x.post.world - a.funds x.pre.world else 0

theorem funds_le_of_outside {x : Transition (EscrowState c) (EscrowEvent c)} (hx : Outside x) :
    a.funds x.post.world ≤ a.funds x.pre.world + deposit a x := by
  rw [deposit, if_pos hx]
  omega

/-! ### The tokens and what they are worth -/

structure Covered (a : c.Books) (s : EscrowState c) : Prop where
  tracked : ∀ id r, s.intents.lookup id = some r → r.Backed a
  creating : ∀ p ∈ s.creating, PendingLock.Covered a p

theorem Step.covered_creating (ha : a.Balanced) (h : Step c mintUrl s e t) (hs : s.Covered a) :
    ∀ p ∈ t.creating, PendingLock.Covered a p := by
  have drop : ∀ {xs ys : List (PendingLock c)} {p}, s.creating = xs ++ p :: ys →
      PendingLock.Covered a p ∧ ∀ q ∈ xs ++ ys, PendingLock.Covered a q := by
    intro xs ys p he
    have hall := hs.creating
    rw [he] at hall
    simp only [List.forall_mem_append, List.forall_mem_cons] at hall ⊢
    exact ⟨hall.2.1, hall.1, hall.2.2⟩
  have replace : ∀ {xs ys : List (PendingLock c)} {p q}, s.creating = xs ++ p :: ys →
      PendingLock.Covered a q → ∀ q' ∈ xs ++ q :: ys, PendingLock.Covered a q' := by
    intro xs ys p q he hq
    have hrest := (drop he).2
    simp only [List.forall_mem_append, List.forall_mem_cons] at hrest ⊢
    exact ⟨hrest.1, hq, hrest.2⟩
  cases h with
  | createChecked _ => exact List.forall_mem_cons.mpr ⟨trivial, hs.creating⟩
  | createPrepared he hp =>
    exact replace he ((CashuProtectedPaymentProvider.prepareSend_books ha hp).2 _ rfl)
  | createConfirmed he hp =>
    exact replace he (CashuProtectedPaymentProvider.confirm_books ha hp (drop he).1).2
  | prepareFailed he _ => exact (drop he).2
  | confirmFailed he _ => exact (drop he).2
  | createTracked he _ => exact (drop he).2
  | _ => exact hs.creating

theorem Step.covered (ha : a.Balanced) (h : Step c mintUrl s e t) (hi : s.Invariant)
    (hs : s.Covered a) : t.Covered a := by
  refine ⟨?_, h.covered_creating ha hs⟩
  intro id r hr
  rcases h.records with
    ⟨hkeep, -⟩ | ⟨l, r', -, hlocked, hset, -⟩ |
    ⟨call, answer, r₀, r', key, how, now, -, hset⟩
  · exact hs.tracked id r (hkeep ▸ hr)
  · rw [hset id] at hr
    split_ifs at hr with hid
    · obtain rfl := Option.some.inj hr
      exact hs.creating _ hlocked
    · exact hs.tracked id r hr
  · rw [hset.set id] at hr
    split_ifs at hr with hid
    · obtain rfl := Option.some.inj hr
      obtain ⟨token, hdecode, hworth⟩ := hs.tracked _ _ hset.lookup
      obtain ⟨hrecord, hterms, -⟩ := hset.record (hi.atRest _ _ hset.lookup)
      have hamount : r'.intent.amountSats = r₀.intent.amountSats := hterms.fields.2.2.1
      refine ⟨token, ?_, ?_⟩
      · rw [hrecord]
        exact hdecode
      · rw [hamount]
        exact hworth
    · exact hs.tracked id r hr

/-! ### The estate only grows by deposits -/

/-- A settled payment is worth no more than before, and what the wallet has received on top is a
deposit. -/
theorem Settles.estate (hc : c.Lawful) (ha : a.Balanced) {call : SettleCall}
    {answer : ReceiptAnswer} {r r' : TrackedPayment} {key : c.SecretKey}
    {how : CashuProtectedPaymentProvider.Settlement} {now : DateTime}
    (h : Settles s call answer t r r' key how now) (hr : AtRest r.intent) (hb : r.Backed a)
    (hcall : e.call = some (call, answer)) :
    a.funds t.world + outstanding t.world r' ≤
      a.funds s.world + outstanding s.world r + deposit a ⟨s, e, t⟩ := by
  obtain ⟨hrecord, hterms, hstatus⟩ := h.record hr
  have htoken : r'.cashuToken = r.cashuToken := by rw [hrecord]
  have hamount : r'.intent.amountSats = r.intent.amountSats := hterms.fields.2.2.1
  have hanti : outstanding t.world r' ≤ outstanding s.world r := by
    refine outstanding_anti (h.later hc) htoken hamount fun hactive => ?_
    rcases hstatus with he | ⟨he, -⟩
    · rwa [he] at hactive
    · rw [he]
      rfl
  rcases CashuProtectedPaymentProvider.settle_cases h.settle with
    ⟨amount, hrec, hwin, -⟩ | ⟨m, hrec, -⟩ | ⟨m, hrec, -⟩
  · obtain ⟨_, -, ⟨tok, hd, hopen, -⟩, tok', hd', hspent⟩ := hc.receive_ok _ _ _ _ _ hrec
    have hfunds := ha.receive_ok _ _ _ _ _ _ hrec hd
    by_cases hown : c.decode (presented call.cashuToken r) = c.decode r.cashuToken
    · -- the payment's own token: it was unspent, and the payment is settled from now on
      obtain ⟨token, hdecode, hworth⟩ := hb
      obtain rfl : tok = token := Option.some.inj (hd.symm.trans (hown.trans hdecode))
      have hbefore : outstanding s.world r = r.intent.amountSats.sats.toNat := by
        refine if_pos (.inr ?_)
        rintro ⟨tok₀, pk, hd₀, hpk⟩
        obtain rfl : tok₀ = tok := Option.some.inj (hd₀.symm.trans hdecode)
        rw [hopen] at hpk
        cases hpk
      have hafter : outstanding t.world r' = 0 := by
        refine if_neg ?_
        rintro (hactive | hopen')
        · have hst := h.moves.win _ hr
          rw [hwin, hst] at hactive
          rcases hr with hr | hr | hr <;> rw [hr] at hactive
          · cases hparty : call.party <;> rw [hparty] at hactive <;> cases hactive
          · cases hactive
          · cases hactive
        · exact hopen' ⟨tok', _, by rw [htoken, ← hown, hd'], hspent⟩
      omega
    · have hout : Outside ⟨s, e, t⟩ := .inr ⟨call, answer, r, hcall, h.lookup, hown⟩
      have := funds_le_of_outside (a := a) hout
      simp only at this
      omega
  · have := ha.receive_error _ _ _ _ _ hrec
    omega
  · have := ha.receive_error _ _ _ _ _ hrec
    omega

theorem Step.creating_of_call (h : Step c mintUrl s e t) {p : SettleCall × ReceiptAnswer}
    (hcall : e.call = some p) : t.creating = s.creating := by
  cases h with
  | claimed _ => rfl
  | refunded _ => rfl
  | _ => cases hcall

theorem Step.estate (hc : c.Lawful) (ha : a.Balanced) (h : Step c mintUrl s e t)
    (hi : s.Invariant) (hs : s.Covered a) :
    t.estate a ≤ s.estate a + deposit a ⟨s, e, t⟩ := by
  have hlater := h.later hc
  have htracked : s.intents.total (outstanding t.world) ≤ s.intents.total (outstanding s.world) :=
    Table.total_le_total fun r _ => outstanding_later hlater r
  have hone : ∀ p : PendingLock c, p.outstanding t.world ≤ p.outstanding s.world := by
    intro p
    cases p with
    | locked l r => exact outstanding_later hlater r
    | _ => exact Nat.le_refl _
  have hpending : ∀ ps : List (PendingLock c), (ps.map (PendingLock.outstanding t.world)).sum ≤
      (ps.map (PendingLock.outstanding s.world)).sum := fun ps =>
    List.sum_le_sum fun p _ => hone p
  cases hcall : e.call with
  | some p =>
    obtain ⟨call, answer⟩ := p
    have hcreating := h.creating_of_call hcall
    have hps := hpending s.creating
    unfold EscrowState.estate
    rw [hcreating]
    rcases h.call_cases hcall with ⟨hkeep, hw, -⟩ | ⟨r, r', key, how, now, hset⟩
    · rw [hkeep, hw]
      omega
    · have hrest := hi.atRest _ _ hset.lookup
      have hsettle := hset.estate hc ha hrest (hs.tracked _ _ hset.lookup) hcall
      have htotal := hset.set.total_replace hset.lookup (fun r => outstanding_later hlater r)
      omega
  | none =>
    have hsum : ∀ {xs ys : List (PendingLock c)} {p}, s.creating = xs ++ p :: ys →
        (s.creating.map (PendingLock.outstanding s.world)).sum =
          ((xs ++ ys).map (PendingLock.outstanding s.world)).sum + p.outstanding s.world := by
      intro xs ys p he
      rw [he]
      simp only [List.map_append, List.map_cons, List.sum_append, List.sum_cons]
      omega
    have hput : ∀ (w : c.World) (xs ys : List (PendingLock c)) (p : PendingLock c),
        ((xs ++ p :: ys).map (PendingLock.outstanding w)).sum =
          ((xs ++ ys).map (PendingLock.outstanding w)).sum + p.outstanding w := by
      intro w xs ys p
      simp only [List.map_append, List.map_cons, List.sum_append, List.sum_cons]
      omega
    unfold EscrowState.estate
    cases h with
    | @external w hw =>
      have hps := hpending s.creating
      have :=
        funds_le_of_outside (a := a) (x := ⟨s, .external, { s with world := w }⟩) (.inl rfl)
      simp only at this htracked hps ⊢
      omega
    | createRefused _ => exact Nat.le_add_right _ _
    | @createChecked _ _ l _ =>
      simp only [List.map_cons, List.sum_cons, PendingLock.outstanding]
      omega
    | @createPrepared l xs ys send w he hp =>
      have hfunds := (CashuProtectedPaymentProvider.prepareSend_books ha hp).1
      have hps := hpending (xs ++ ys)
      have hpre := hsum he
      simp only [hput, PendingLock.outstanding] at hpre htracked hps ⊢
      omega
    | @prepareFailed l xs ys err w he hp =>
      have hfunds := (CashuProtectedPaymentProvider.prepareSend_books ha hp).1
      have hps := hpending (xs ++ ys)
      have hpre := hsum he
      simp only [PendingLock.outstanding] at hpre htracked hps ⊢
      omega
    | @createConfirmed l send xs ys id now now₁ now₂ r w he hp =>
      have hsend : PendingLock.Covered a (.prepared l send) := hs.creating _ (by rw [he]; simp)
      have hfunds := (CashuProtectedPaymentProvider.confirm_books ha hp hsend).1
      have hps := hpending (xs ++ ys)
      have hpre := hsum he
      have hnew := outstanding_le w r
      simp only [hput, PendingLock.outstanding] at hpre htracked hps ⊢
      omega
    | @confirmFailed l send xs ys id now now₁ now₂ err w he hp =>
      have hfunds := ha.confirm_le s.world send
      rw [CashuProtectedPaymentProvider.world_of_confirm hp] at hfunds
      have hps := hpending (xs ++ ys)
      have hpre := hsum he
      simp only [PendingLock.outstanding] at hpre htracked hps ⊢
      omega
    | @createTracked l r xs ys he hf =>
      have hset : Table.SetAt s.intents r.intent.id r
          (CashuProtectedPaymentProvider.track s.intents r) := Table.setAt_insert _ _ _
      have htotal := hset.total_le (outstanding s.world)
      have hpre := hsum he
      simp only [PendingLock.outstanding] at hpre ⊢
      omega
    | claimed _ => cases hcall
    | refunded _ => cases hcall

theorem active_le_estate (a : c.Books) (s : EscrowState c) :
    a.funds s.world + CashuProtectedPaymentProvider.activeSats s.intents ≤ s.estate a := by
  have hle : CashuProtectedPaymentProvider.activeSats s.intents ≤
      s.intents.total (outstanding s.world) :=
    Table.total_le_total fun r _ => active_le_outstanding s.world r
  unfold estate
  omega

theorem estate_of_init (h : (escrowSystem c mintUrl).init s) : s.estate a = a.funds s.world := by
  obtain ⟨hi, hp⟩ := h
  rw [estate, hi, hp, Table.total_empty]
  rfl

theorem covered_of_run (ha : a.Balanced) {tr} (h₀ : (escrowSystem c mintUrl).init s)
    (h : (escrowSystem c mintUrl).Run s tr t) : t.Covered a := by
  refine h.induct (.init h₀) ?_ fun x _ hr hl hs =>
    Step.covered ha hl (escrowInvariant_of_reachable hr) hs
  obtain ⟨hi, hp⟩ := h₀
  constructor
  · simp [hi]
  · simp [hp]

end EscrowState

open EscrowState in
/-- In every run, over any wallet and any mint, the balance that is reported never exceeds what
the wallet had at first and the deposits since; as long as these fit into 64 bits, the sum over the
active payments does not wrap around. -/
theorem reported_balance_is_covered {c : Cdk} {a : c.Books} (hc : c.Lawful) (ha : a.Balanced)
    {mintUrl : String} {s₀ s : EscrowState c}
    {tr : List (Transition (EscrowState c) (EscrowEvent c))}
    (h₀ : (escrowSystem c mintUrl).init s₀) (h : (escrowSystem c mintUrl).Run s₀ tr s)
    {b : WalletBalance} (hb : getWalletBalance s.intents s.world = .ok b) :
    b.spendableSats.toNat + CashuProtectedPaymentProvider.activeSats s.intents ≤
        a.funds s₀.world + (tr.map (deposit a)).sum ∧
      (a.funds s₀.world + (tr.map (deposit a)).sum < 2 ^ 64 →
        b.protectedOutgoingSats.toNat = CashuProtectedPaymentProvider.activeSats s.intents) := by
  have hestate : s.estate a ≤ s₀.estate a + (tr.map (deposit a)).sum := by
    have hcov : ∀ s, (escrowSystem c mintUrl).Reachable s → s.Covered a := by
      rintro s ⟨tr, s₀, h₀, h⟩
      exact covered_of_run ha h₀ h
    exact h.potential (.init h₀) _ _ fun s e t hr hl =>
      Step.estate hc ha hl (escrowInvariant_of_reachable hr) (hcov s hr)
  rw [estate_of_init h₀] at hestate
  have hactive := active_le_estate a s
  unfold getWalletBalance at hb
  cases htotal : c.totalBalance s.world with
  | error e =>
    rw [htotal] at hb
    cases hb
  | ok total =>
    rw [htotal] at hb
    obtain rfl := Except.ok.inj hb
    have hspend := ha.totalBalance_le _ _ htotal
    refine ⟨by simp only; omega, fun hfits => ?_⟩
    exact (CashuProtectedPaymentProvider.toNat_protectedOutgoing _).trans
      (Nat.mod_eq_of_lt (by omega))

/-! ### A mint whose tokens are tallies -/

/-- A token with its number and its amount in unary. -/
structure Tally where
  number : ℕ
  amount : ℕ
  deriving DecidableEq

namespace Tally

def encode (t : Tally) : String :=
  String.ofList (List.replicate t.number '|' ++ List.replicate t.amount '+')

@[irreducible] def decode (s : String) : Option Tally :=
  let t : Tally := ⟨s.toList.count '|', s.toList.count '+'⟩
  if t.encode = s then some t else none

theorem decode_encode (t : Tally) : decode t.encode = some t := by
  have hlist : t.encode.toList = List.replicate t.number '|' ++ List.replicate t.amount '+' :=
    String.toList_ofList
  have hcount : (⟨t.encode.toList.count '|', t.encode.toList.count '+'⟩ : Tally) = t := by
    rw [hlist]
    simp [List.count_append, List.count_replicate]
  simp only [decode, hcount, if_pos]

theorem encode_of_decode {s : String} {t : Tally} (h : decode s = some t) : t.encode = s := by
  simp only [decode] at h
  split_ifs at h with he
  rwa [← Option.some.inj h]

end Tally

/-- The ledger, which gives tallies out and pays what they say. -/
def Ledger.issue (w : Ledger) (l : Lock) : Except String Tally × Ledger :=
  let t : Tally := ⟨w.locks.size, l.amount.toNat⟩
  if w.balance < l.amount then (.error "Insufficient funds", w)
  else if (w.locks.lookup t.encode).isSome then (.error "Token exists", w)
  else
    (.ok t, { w with locks := w.locks.insert t.encode l, balance := w.balance - l.amount })

def Ledger.redeem (w : Ledger) (s : String) (keys : List String) : Except String UInt64 × Ledger :=
  match Tally.decode s, w.locks.lookup s with
  | some t, some l =>
    if l.amount.toNat = t.amount then w.receive s keys else (.error "Invalid amount", w)
  | _, _ => (.error "Unknown token", w)

abbrev Cdk.tally (pairs : KeyPairs) : Cdk where
  World := Ledger
  SecretKey := String
  PublicKey := String
  Conditions := UInt64 × Option String
  PreparedSend := Lock
  Token := Tally
  parsePublicKey := pairs.parsePublicKey
  parseSecretKey := pairs.parseSecretKey
  publicKey := pairs.publicKey
  fetchMintInfo := (Cdk.ledger pairs).fetchMintInfo
  newConditions := (Cdk.ledger pairs).newConditions
  prepareSend := (Cdk.ledger pairs).prepareSend
  confirm := Ledger.issue
  encode := Tally.encode
  receive w s keys := w.redeem s (keys.map pairs.publicKey)
  totalBalance w := .ok w.balance
  decode := Tally.decode
  spender w t := w.spender t.encode
  Unlocks w t key := ∃ l, w.locks.lookup t.encode = some l ∧ w.unlocks l key = true

namespace Ledger

theorem kept_issue (w : Ledger) (l : Lock) : Kept w (w.issue l).2 := by
  simp only [issue]
  split_ifs with hlow hs
  · exact .refl w
  · exact .refl w
  · have hn := Option.not_isSome_iff_eq_none.mp hs
    exact kept_of_setAt (by rw [spender, hn]; rfl) (Table.setAt_insert _ _ _)

/-- A token is refused as it stands, or received as the ledger receives it. -/
theorem redeem_cases (w : Ledger) (s : String) (keys : List String) :
    (∃ e, w.redeem s keys = (.error e, w) ∧ Cdk.alreadySpent e = false) ∨
    ∃ t l, Tally.decode s = some t ∧ w.locks.lookup s = some l ∧ l.amount.toNat = t.amount ∧
      w.redeem s keys = w.receive s keys := by
  cases hd : Tally.decode s with
  | none => exact .inl ⟨"Unknown token", by simp only [redeem, hd], by decide +kernel⟩
  | some t =>
    cases hl : w.locks.lookup s with
    | none => exact .inl ⟨"Unknown token", by simp only [redeem, hd, hl], by decide +kernel⟩
    | some l =>
      by_cases ha : l.amount.toNat = t.amount
      · exact .inr ⟨t, l, rfl, rfl, ha, by simp only [redeem, hd, hl, if_pos ha]⟩
      · exact .inl ⟨"Invalid amount", by simp only [redeem, hd, hl, if_neg ha],
          by decide +kernel⟩

theorem issue_ok {w w' : Ledger} {l : Lock} {t : Tally} (h : w.issue l = (.ok t, w')) :
    l.amount ≤ w.balance ∧ t.amount = l.amount.toNat ∧ w'.balance = w.balance - l.amount := by
  simp only [issue] at h
  split_ifs at h with hlow hs
  · cases h
  · cases h
  · obtain ⟨ht, rfl⟩ := Prod.mk.inj h
    obtain rfl := Except.ok.inj ht
    exact ⟨UInt64.not_lt.mp hlow, rfl, rfl⟩

theorem kept_redeem (w : Ledger) (s : String) (keys : List String) :
    Kept w (w.redeem s keys).2 := by
  rcases redeem_cases w s keys with ⟨e, he, -⟩ | ⟨_, _, -, -, -, he⟩
  · rw [he]
    exact .refl w
  · rw [he]
    exact kept_receive w s keys

theorem redeem_ok {w w' : Ledger} {s : String} {keys : List String} {amount : UInt64}
    (h : w.redeem s keys = (.ok amount, w')) :
    ∃ key ∈ keys, ∃ t, Tally.decode s = some t ∧ w.spender t.encode = none ∧
      (∃ l, w.locks.lookup t.encode = some l ∧ w.unlocks l key = true) ∧
      w'.spender t.encode = some key := by
  rcases redeem_cases w s keys with ⟨e, he, -⟩ | ⟨t, l, hd, -, -, he⟩
  · cases he.symm.trans h
  · obtain ⟨key, hk, hn, hu, hs⟩ := receive_ok (he.symm.trans h)
    rw [← Tally.encode_of_decode hd] at hn hu hs
    exact ⟨key, hk, t, hd, hn, hu, hs⟩

theorem redeem_spent {w w' : Ledger} {s : String} {keys : List String} {message : String}
    (h : w.redeem s keys = (.error message, w')) (hm : Cdk.alreadySpent message = true) :
    ∃ t key, Tally.decode s = some t ∧ w.spender t.encode = some key := by
  rcases redeem_cases w s keys with ⟨e, he, hne⟩ | ⟨t, l, hd, -, -, he⟩
  · obtain ⟨hmessage, -⟩ := Prod.mk.inj (he.symm.trans h)
    rw [Except.error.inj hmessage, hm] at hne
    cases hne
  · obtain ⟨key, hk⟩ := receive_spent (he.symm.trans h) hm
    rw [← Tally.encode_of_decode hd] at hk
    exact ⟨t, key, hd, hk⟩

/-- What a token adds to the balance, and that a refused one leaves the ledger as it is. -/
theorem redeem_balance {w w' : Ledger} {s : String} {keys : List String}
    {answer : Except String UInt64} (h : w.redeem s keys = (answer, w')) :
    w' = w ∧ (∃ e, answer = .error e) ∨
    ∃ t amount, answer = .ok amount ∧ Tally.decode s = some t ∧
      w'.balance.toNat ≤ w.balance.toNat + t.amount := by
  rcases redeem_cases w s keys with ⟨e, he, -⟩ | ⟨t, l, hd, hl, ha, he⟩
  · obtain ⟨rfl, rfl⟩ := Prod.mk.inj (he.symm.trans h)
    exact .inl ⟨rfl, e, rfl⟩
  · rcases receive_cases (he.symm.trans h) with
      ⟨rfl, rfl⟩ | ⟨l', -, rfl, -, rfl⟩ | ⟨rfl, rfl⟩ |
      ⟨l', key, hl', -, -, -, rfl, rfl⟩
    · exact .inl ⟨rfl, _, rfl⟩
    · exact .inl ⟨rfl, _, rfl⟩
    · exact .inl ⟨rfl, _, rfl⟩
    · obtain rfl : l = l' := Option.some.inj (hl.symm.trans hl')
      refine .inr ⟨t, _, rfl, hd, ?_⟩
      show (w.balance + l.amount).toNat ≤ w.balance.toNat + t.amount
      rw [UInt64.toNat_add]
      omega

theorem balance_issue_le (w : Ledger) (l : Lock) :
    (w.issue l).2.balance.toNat ≤ w.balance.toNat := by
  match h : w.issue l with
  | (.ok t, w') =>
    obtain ⟨hle, -, hb⟩ := issue_ok h
    have hsub := UInt64.toNat_sub_of_le _ _ hle
    simp only [hb]
    omega
  | (.error e, w') =>
    simp only [issue] at h
    split_ifs at h
    · exact (congrArg (fun x : Ledger => x.balance.toNat) (Prod.mk.inj h).2.symm).le
    · exact (congrArg (fun x : Ledger => x.balance.toNat) (Prod.mk.inj h).2.symm).le
    · cases h

end Ledger

theorem Cdk.tally_lawful (pairs : KeyPairs) : (Cdk.tally pairs).Lawful where
  prepareSend_later _ _ _ _ := fun _ _ h => h
  confirm_later w l := fun (t : Tally) => Ledger.kept_issue w l (Tally.encode t)
  receive_later w s keys := fun (t : Tally) =>
    Ledger.kept_redeem w s (keys.map pairs.publicKey) (Tally.encode t)
  receive_ok w s keys amount w' h := by
    have h : Ledger.redeem w s (keys.map pairs.publicKey) = (.ok amount, w') := h
    obtain ⟨key, hk, t, hd, hn, hu, hs⟩ := Ledger.redeem_ok h
    obtain ⟨sk, hsk, rfl⟩ := List.mem_map.mp hk
    exact ⟨sk, hsk, ⟨t, hd, hn, hu⟩, t, hd, hs⟩
  receive_spent w s keys message w' h hm := by
    have h : Ledger.redeem w s (keys.map pairs.publicKey) = (.error message, w') := h
    obtain ⟨t, key, hd, hs⟩ := Ledger.redeem_spent h hm
    exact ⟨t, key, hd, hs⟩

def Cdk.tallyBooks (pairs : KeyPairs) : (Cdk.tally pairs).Books where
  funds w := w.balance.toNat
  worth t := t.amount
  promised l := l.amount.toNat

theorem Cdk.tallyBooks_balanced (pairs : KeyPairs) : (Cdk.tallyBooks pairs).Balanced where
  totalBalance_le w b h := (congrArg UInt64.toNat (Except.ok.inj h)).ge
  prepareSend_le w _ _ _ := Nat.le_refl w.balance.toNat
  prepareSend_ok w amount pk conditions send w' h := by
    rcases CashuProtectedPaymentProvider.prepareSend_ledger pairs w amount pk conditions with
      ⟨-, e, he⟩ | ⟨-, he⟩
    · cases he.symm.trans h
    · cases he.symm.trans h
      rfl
  confirm_le := Ledger.balance_issue_le
  confirm_ok w l (t : Tally) w' h := by
    obtain ⟨hle, ht, hb⟩ := Ledger.issue_ok h
    have hsub := UInt64.toNat_sub_of_le _ _ hle
    have hle' := UInt64.le_iff_toNat_le.mp hle
    have hfunds : w'.balance.toNat + l.amount.toNat ≤ w.balance.toNat := by
      rw [hb]
      omega
    exact ⟨hfunds, ht, Tally.decode_encode t⟩
  receive_ok w s keys amount w' t h hd := by
    have h : Ledger.redeem w s (keys.map pairs.publicKey) = (.ok amount, w') := h
    rcases Ledger.redeem_balance h with ⟨-, e, he⟩ | ⟨t', _, -, hd', hle⟩
    · cases he
    · obtain rfl : t' = t := Option.some.inj (hd'.symm.trans hd)
      exact hle
  receive_error w s keys e w' h := by
    have h : Ledger.redeem w s (keys.map pairs.publicKey) = (.error e, w') := h
    rcases Ledger.redeem_balance h with ⟨rfl, -⟩ | ⟨_, _, he, -⟩
    · exact Nat.le_refl w'.balance.toNat
    · cases he

/-! ### A payment of a tally -/

abbrev sampleTallyCdk : Cdk :=
  .tally [(bobSecret, bobKey), (aliceSecret, aliceKey), (charlieSecret, charlieKey)]

def sampleTallyLedger : Ledger := ⟨0, ∅, 100⟩

def sampleTallyRequest : LockRequest sampleTallyCdk where
  request := sampleCreate
  conditionsInput := sampleConditions
  recipientPubkey := bobKey
  spendingConditions := ((86400 : UInt64), some aliceKey)

def sampleTallyTracked : TrackedPayment :=
  { sampleTracked with cashuToken := Tally.encode ⟨0, 21⟩ }

def sampleTallyLocked : Ledger :=
  ⟨0, Table.insert ∅ (Tally.encode ⟨0, 21⟩) sampleTokenLock, 79⟩

def sampleTallyClaimed : TrackedPayment :=
  { sampleTallyTracked with
    intent := { sampleTallyTracked.intent with status := .claimed, updatedAt := .epoch } }

open CashuProtectedPaymentProvider in
/-- Bob swaps the token of the payment. -/
theorem claimPayment_sampleTally : claimPayment (c := sampleTallyCdk) (track ∅ sampleTallyTracked)
    sampleTallyLocked (sampleClaim bobSecret none) .epoch =
      (.ok (sampleReceipt .claimed 21 "claimed_"), track ∅ sampleTallyClaimed,
        sampleTallyLocked.spend (Tally.encode ⟨0, 21⟩) sampleTokenLock bobKey) := by
  decide +kernel

open EscrowState CashuProtectedPaymentProvider in
/-- Alice sends 21 of her 100 sats, and Bob claims them. -/
theorem reported_balance_is_covered_sample : ∃ tr s b,
    (escrowSystem sampleTallyCdk "mint").Run ⟨∅, [], sampleTallyLedger⟩ tr s ∧
    (∃ x ∈ tr, x.label =
      .claimed (sampleClaim bobSecret none) .epoch (.ok (sampleReceipt .claimed 21 "claimed_")) ∧
      x.pre.world.balance = 79 ∧ activeSats x.pre.intents = 21) ∧
    getWalletBalance s.intents s.world = .ok b ∧ b.spendableSats = 100 ∧
    activeSats s.intents = 0 ∧
    b.spendableSats.toNat + activeSats s.intents ≤
      100 + (tr.map (deposit (Cdk.tallyBooks _))).sum := by
  have h₁ := System.Run.snoc (T := escrowSystem sampleTallyCdk "mint") .nil
    (@Step.createChecked sampleTallyCdk "mint" ⟨∅, [], sampleTallyLedger⟩ 0 sampleCreate
      sampleTallyRequest rfl)
  have h₂ := h₁.snoc (@Step.createPrepared sampleTallyCdk "mint" _ sampleTallyRequest [] []
    sampleTokenLock sampleTallyLedger rfl rfl)
  have h₃ := h₂.snoc (@Step.createConfirmed sampleTallyCdk "mint" _ sampleTallyRequest
    sampleTokenLock [] [] (.ofNat 1) .epoch .epoch .epoch sampleTallyTracked sampleTallyLocked
    rfl rfl)
  have h₄ := h₃.snoc (@Step.createTracked sampleTallyCdk "mint" _ sampleTallyRequest
    sampleTallyTracked [] [] rfl (by simp [sampleTallyRequest, sampleCreate]))
  have h₅ := h₄.snoc (Step.claimed claimPayment_sampleTally)
  have hb : getWalletBalance (c := sampleTallyCdk) (track ∅ sampleTallyClaimed)
      (sampleTallyLocked.spend (Tally.encode ⟨0, 21⟩) sampleTokenLock bobKey) =
        .ok ⟨100, 0, 0⟩ := by
    decide +kernel
  exact ⟨_, _, _, h₅, ⟨_, List.mem_append_right _ (List.mem_singleton_self _), rfl, rfl,
    by decide +kernel⟩, hb, rfl, by decide +kernel,
    (reported_balance_is_covered (Cdk.tally_lawful _) (Cdk.tallyBooks_balanced _) ⟨rfl, rfl⟩ h₅
      hb).1⟩

end Hanbova
