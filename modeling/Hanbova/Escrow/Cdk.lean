import Hanbova.Library.Chrono
import Hanbova.Library.Table
import Hanbova.Library.Text

/-! The wallet library and the mint behind it, as far as the Cashu provider uses them. -/
namespace Hanbova

open Library Library.Text

/-- The calls of the wallet library. `World` is the wallet together with the mint and its clock;
`decode` and `spender` tell which locked token a text stands for and which key has spent it. -/
structure Cdk where
  World : Type
  SecretKey : Type
  PublicKey : Type
  Conditions : Type
  PreparedSend : Type
  Token : Type
  parsePublicKey : String → Except String PublicKey
  parseSecretKey : String → Except String SecretKey
  publicKey : SecretKey → PublicKey
  /-- Whether the mint supports NUT-11, if it publishes any information. -/
  fetchMintInfo : World → Except String (Option Bool)
  /-- `Conditions::new` for a locktime and refund keys, signing the inputs. -/
  newConditions : World → UInt64 → Option (List PublicKey) → Except String Conditions
  prepareSend : World → UInt64 → PublicKey → Conditions →
    Except String PreparedSend × World
  confirm : World → PreparedSend → Except String Token × World
  encode : Token → String
  receive : World → String → List SecretKey → Except String UInt64 × World
  totalBalance : World → Except String UInt64
  decode : String → Option Token
  spender : World → Token → Option PublicKey
  /-- The key satisfies the conditions of the token, at the time of the mint. -/
  Unlocks : World → Token → PublicKey → Prop

namespace Cdk
variable (c : Cdk)

/-- Spent tokens stay spent, by the key that spent them. -/
def Later (w w' : c.World) : Prop :=
  ∀ tok pk, c.spender w tok = some pk → c.spender w' tok = some pk

/-- The token that the text stands for is spent. -/
def Spent (w : c.World) (s : String) : Prop :=
  ∃ tok pk, c.decode s = some tok ∧ c.spender w tok = some pk

/-- The token that the text stands for is unspent, and the key satisfies its conditions. -/
def Receivable (w : c.World) (s : String) (key : c.SecretKey) : Prop :=
  ∃ tok, c.decode s = some tok ∧ c.spender w tok = none ∧ c.Unlocks w tok (c.publicKey key)

/-- How the provider recognises that a token had been spent before. -/
def alreadySpent (message : String) : Bool :=
  containsText message "TokenAlreadySpent" || containsText message "already spent"

/-- What is assumed of the wallet and the mint: a token is spent at most once, a token is received
only when a given key satisfies its conditions, and it counts as spent from then on; the answer
that a token had been spent is given of spent tokens only. -/
structure Lawful : Prop where
  prepareSend_later : ∀ w amount pk conditions,
    c.Later w (c.prepareSend w amount pk conditions).2
  confirm_later : ∀ w prepared, c.Later w (c.confirm w prepared).2
  receive_later : ∀ w s keys, c.Later w (c.receive w s keys).2
  receive_ok : ∀ w s keys amount w', c.receive w s keys = (.ok amount, w') →
    ∃ key ∈ keys, c.Receivable w s key ∧
      ∃ tok, c.decode s = some tok ∧ c.spender w' tok = some (c.publicKey key)
  receive_spent : ∀ w s keys message w', c.receive w s keys = (.error message, w') →
    alreadySpent message = true → c.Spent w s

variable {c}

theorem Later.refl (w : c.World) : c.Later w w := fun _ _ h => h

theorem Spent.later {w w' : c.World} {s : String} (h : c.Spent w s) (hw : c.Later w w') :
    c.Spent w' s := by
  obtain ⟨tok, pk, hs, hp⟩ := h
  exact ⟨tok, pk, hs, hw tok pk hp⟩

end Cdk

/-! ### A mint that keeps its locks in a table -/

/-- A locked token, with its public keys in hexadecimal. -/
structure Lock where
  amount : UInt64
  recipient : String
  refund : Option String
  locktime : UInt64
  spentBy : Option String
  deriving DecidableEq

/-- A mint at a certain time, with the tokens it has locked, and the balance of the wallet. -/
structure Ledger where
  now : UInt64
  locks : Table String Lock
  balance : UInt64
  deriving DecidableEq

namespace Ledger

/-- The recipient can always unlock a token, the refund key from the locktime on. -/
def unlocks (w : Ledger) (l : Lock) (key : String) : Bool :=
  l.recipient == key || (l.refund == some key && l.locktime ≤ w.now)

def spend (w : Ledger) (s : String) (l : Lock) (key : String) : Ledger :=
  { w with
    locks := w.locks.insert s { l with spentBy := some key }, balance := w.balance + l.amount }

/-- The library gives the words of a mint whose error code it does not know. It has words of its own
for the code that it knows. -/
def spentMessage : String := "Unknown error response: `code: 0, detail: Token already spent.`"

/-- What the provider looks for is in the words of that mint, and not in those of the library. -/
theorem alreadySpent_spentMessage : Cdk.alreadySpent spentMessage = true ∧
    Cdk.alreadySpent "Token Already Spent" = false := by decide +kernel

def receive (w : Ledger) (s : String) (keys : List String) : Except String UInt64 × Ledger :=
  match w.locks.lookup s with
  | none => (.error "Unknown token", w)
  | some l =>
    if l.spentBy.isSome then (.error spentMessage, w)
    else match keys.find? (w.unlocks l) with
      | none => (.error "Witness is missing", w)
      | some key => (.ok l.amount, w.spend s l key)

/-- The lock of a fresh token. -/
def confirm (w : Ledger) (l : Lock) : Except String String × Ledger :=
  let s := "cashuB" ++ toString w.locks.entries.length
  if (w.locks.lookup s).isSome then (.error "Token exists", w)
  else (.ok s, { w with locks := w.locks.insert s l, balance := w.balance - l.amount })

def spender (w : Ledger) (s : String) : Option String := (w.locks.lookup s).bind Lock.spentBy

end Ledger

namespace Ledger
variable {w w' : Ledger} {s : String} {l : Lock}

theorem spender_of_lookup (h : w.locks.lookup s = some l) : w.spender s = l.spentBy := by
  rw [spender, h]
  rfl

/-- Spent tokens stay spent, by the key that spent them. -/
def Kept (w w' : Ledger) : Prop := ∀ s key, w.spender s = some key → w'.spender s = some key

theorem Kept.refl (w : Ledger) : Kept w w := fun _ _ h => h

/-- A ledger changes the lock of an unspent token only. -/
theorem kept_of_setAt (h : w.spender s = none) (hw : Table.SetAt w.locks s l w'.locks) :
    Kept w w' := by
  intro tok key htok
  have hne : tok ≠ s := by
    rintro rfl
    rw [h] at htok
    cases htok
  rw [spender, hw.lookup_ne hne]
  exact htok

theorem receive_cases {keys : List String} {answer : Except String UInt64}
    (h : w.receive s keys = (answer, w')) :
    (w' = w ∧ answer = .error "Unknown token") ∨
    (∃ l, w.locks.lookup s = some l ∧ w' = w ∧ l.spentBy.isSome = true ∧
      answer = .error spentMessage) ∨
    (w' = w ∧ answer = .error "Witness is missing") ∨
    ∃ l key, w.locks.lookup s = some l ∧ l.spentBy = none ∧ key ∈ keys ∧
      w.unlocks l key = true ∧ answer = .ok l.amount ∧ w' = w.spend s l key := by
  unfold receive at h
  cases hl : w.locks.lookup s with
  | none =>
    simp only [hl, Prod.mk.injEq] at h
    exact .inl ⟨h.2.symm, h.1.symm⟩
  | some l =>
    simp only [hl] at h
    split_ifs at h with hs
    · obtain ⟨rfl, rfl⟩ := Prod.mk.inj h
      exact .inr (.inl ⟨l, rfl, rfl, hs, rfl⟩)
    · cases hf : keys.find? (w.unlocks l) with
      | none =>
        simp only [hf, Prod.mk.injEq] at h
        exact .inr (.inr (.inl ⟨h.2.symm, h.1.symm⟩))
      | some key =>
        simp only [hf, Prod.mk.injEq] at h
        exact .inr (.inr (.inr ⟨l, key, rfl, by simpa using hs, List.mem_of_find?_eq_some hf,
          List.find?_some hf, h.1.symm, h.2.symm⟩))

theorem kept_receive (w : Ledger) (s : String) (keys : List String) :
    Kept w (w.receive s keys).2 := by
  have hr : w.receive s keys = ((w.receive s keys).1, (w.receive s keys).2) := rfl
  generalize (w.receive s keys).2 = w' at hr
  rcases receive_cases hr with ⟨rfl, -⟩ | ⟨l, -, rfl, -⟩ | ⟨rfl, -⟩ |
    ⟨l, key, hl, hn, -, -, -, rfl⟩
  · exact .refl _
  · exact .refl _
  · exact .refl _
  · exact kept_of_setAt ((spender_of_lookup hl).trans hn) (Table.setAt_insert _ _ _)

theorem kept_confirm (w : Ledger) (l : Lock) : Kept w (w.confirm l).2 := by
  simp only [confirm]
  split_ifs with hs
  · exact .refl w
  · have hn := Option.not_isSome_iff_eq_none.mp hs
    exact kept_of_setAt (by rw [spender, hn]; rfl) (Table.setAt_insert _ _ _)

theorem receive_ok {keys : List String} {amount : UInt64}
    (h : w.receive s keys = (.ok amount, w')) :
    ∃ key ∈ keys, w.spender s = none ∧
      (∃ l, w.locks.lookup s = some l ∧ w.unlocks l key = true) ∧
        w'.spender s = some key := by
  rcases receive_cases h with
    ⟨-, he⟩ | ⟨l, -, -, -, he⟩ | ⟨-, he⟩ | ⟨l, key, hl, hn, hk, hu, -, rfl⟩
  · cases he
  · cases he
  · cases he
  · refine ⟨key, hk, (spender_of_lookup hl).trans hn, ⟨l, hl, hu⟩, ?_⟩
    have hm := Table.setAt_insert w.locks s { l with spentBy := some key }
    exact spender_of_lookup (w := w.spend s l key) hm.lookup_self

theorem receive_spent {keys : List String} {message : String}
    (h : w.receive s keys = (.error message, w')) (hm : Cdk.alreadySpent message = true) :
    ∃ key, w.spender s = some key := by
  rcases receive_cases h with
    ⟨-, he⟩ | ⟨l, hl, -, hs, -⟩ | ⟨-, he⟩ | ⟨l, key, -, -, -, -, he, -⟩
  · cases he
    exact absurd hm (by decide +kernel)
  · obtain ⟨key, hkey⟩ := Option.isSome_iff_exists.mp hs
    exact ⟨key, (spender_of_lookup hl).trans hkey⟩
  · cases he
    exact absurd hm (by decide +kernel)
  · cases he

end Ledger

/-- The secret keys in use, in hexadecimal, each with its public key. -/
abbrev KeyPairs := List (String × String)

namespace KeyPairs

def publicKey (pairs : KeyPairs) (key : String) : String := (pairs.lookup key).getD ""

def parseSecretKey (pairs : KeyPairs) (s : String) : Except String String :=
  if s ∈ pairs.map Prod.fst then .ok s else .error "Invalid secret key"

def parsePublicKey (pairs : KeyPairs) (s : String) : Except String String :=
  if s ∈ pairs.map Prod.snd then .ok s else .error "Invalid public key"

end KeyPairs

abbrev Cdk.ledger (pairs : KeyPairs) : Cdk where
  World := Ledger
  SecretKey := String
  PublicKey := String
  Conditions := UInt64 × Option String
  PreparedSend := Lock
  Token := String
  parsePublicKey := pairs.parsePublicKey
  parseSecretKey := pairs.parseSecretKey
  publicKey := pairs.publicKey
  fetchMintInfo _ := .ok (some true)
  newConditions w locktime refund :=
    if locktime < w.now then .error "Locktime in past"
    else .ok (locktime, refund.bind List.head?)
  prepareSend w amount recipient conditions :=
    (if w.balance < amount then .error "Insufficient funds"
      else .ok ⟨amount, recipient, conditions.2, conditions.1, none⟩, w)
  confirm := Ledger.confirm
  encode s := s
  receive w s keys := Ledger.receive w s (keys.map pairs.publicKey)
  totalBalance w := .ok w.balance
  decode := some
  spender := Ledger.spender
  Unlocks w s key := ∃ l, w.locks.lookup s = some l ∧ w.unlocks l key = true

theorem Cdk.ledger_lawful (pairs : KeyPairs) : (Cdk.ledger pairs).Lawful where
  prepareSend_later w _ _ _ := Ledger.Kept.refl w
  confirm_later := Ledger.kept_confirm
  receive_later w s keys := Ledger.kept_receive w s (keys.map pairs.publicKey)
  receive_ok w s keys _ _ h := by
    obtain ⟨key, hk, hn, hu, hs⟩ := Ledger.receive_ok h
    obtain ⟨sk, hsk, rfl⟩ := List.mem_map.mp hk
    exact ⟨sk, hsk, ⟨s, rfl, hn, hu⟩, s, rfl, hs⟩
  receive_spent w s _ _ _ h hm := by
    obtain ⟨key, hk⟩ := Ledger.receive_spent h hm
    exact ⟨s, key, rfl, hk⟩

end Hanbova
