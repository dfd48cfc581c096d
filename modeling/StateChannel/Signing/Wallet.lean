import StateChannel.Signing.Address
import StateChannel.Signing.Oracle

/-!
# Wallets

A wallet holds keys by their addresses and signs with them.

## Main definitions

* `Wallet`: the keys
* `Wallet.insert`: adds a key under its address
* `Wallet.oracle`, `Wallet.verifier`: the wallet as an oracle and as a verifier

## Main results

* `Wallet.holds_insert`: after a key was added, its address is held too
* `Wallet.key?_eq_none_iff`: a key is found for the addresses that are held
-/

namespace StateChannel

/-- Keys by their addresses; every address occurs once. -/
structure Wallet where
  entries : List (String × SecretKey)
  address_eq : ∀ entry ∈ entries, entry.1 = entry.2.address
  nodup : (entries.map (·.1)).Nodup

namespace Wallet

/-- No keys. -/
def empty : Wallet := ⟨[], by simp, by simp⟩

/-- The addresses that the wallet holds a key for. -/
def addresses (w : Wallet) : List String := w.entries.map (·.1)

/-- The number of addresses. -/
def size (w : Wallet) : Nat := w.entries.length

/-- The key of `address`. -/
def key? (w : Wallet) (address : String) : Option SecretKey := w.entries.lookup address

/-- The wallet `w` holds a key for `address`. -/
def Holds (w : Wallet) (address : String) : Prop := address ∈ w.addresses

instance (w : Wallet) (address : String) : Decidable (w.Holds address) :=
  inferInstanceAs (Decidable (_ ∈ _))

/-- Adds `key` under its address. -/
def insert (w : Wallet) (key : SecretKey) : Wallet :=
  let address := key.address
  { entries := (address, key) :: w.entries.filter fun entry => entry.1 ≠ address
    address_eq := by
      intro entry h
      rcases List.mem_cons.1 h with rfl | h
      · rfl
      · exact w.address_eq entry (List.mem_filter.1 h).1
    nodup := by
      rw [List.map_cons, List.nodup_cons]
      refine ⟨?_, w.nodup.sublist (List.filter_sublist.map _)⟩
      simp [address] }

/-- What is answered when a key has been used, if it gave a signature. -/
def answerOf {σ : Type} : Option Bytes → Signing.Asking σ Bytes
  | some signature => return signature
  | none => throw (.signing "signature error")

/-- The wallet as an oracle. Asking does not change it. -/
def oracle (w : Wallet) (σ : Type) : Signing.Oracle σ where
  validateAddress address := return Address.IsValid address
  isMine address := return w.Holds address
  sign address message :=
    match w.key? address with
    | none => throw (.unknownAddress address)
    | some key => answerOf (PersonalMessage.sign? key message)

/-- The verifier of every wallet: recovery needs no keys. -/
def verifier (σ : Type) : Signing.Verifier σ where
  recoverSigner message signature := return PersonalMessage.recover? message signature

theorem holds_insert {w : Wallet} {key : SecretKey} {address : String} :
    (w.insert key).Holds address ↔ address = key.address ∨ w.Holds address := by
  by_cases h : address = key.address <;> simp_all [Holds, addresses, insert]

theorem key?_eq_none_iff {w : Wallet} {address : String} :
    w.key? address = none ↔ ¬ w.Holds address := by
  rw [key?, List.lookup_eq_none_iff]
  constructor
  · intro apart held
    obtain ⟨entry, inside, rfl⟩ := List.mem_map.1 held
    simpa using apart entry inside
  · intro stranger entry inside
    have apart : address ≠ entry.1 := fun same =>
      stranger (List.mem_map.2 ⟨entry, inside, same.symm⟩)
    simpa using apart

end Wallet

end StateChannel
