import Mathlib.Data.Finset.Card
import StateChannel.Proofs.Bytes.Codecs
import StateChannel.Proofs.Curve.Recovery
import StateChannel.Signing.Wallet

/-!
# A wallet keeps its keys

A wallet knows exactly the addresses of the keys that were added to it, however often and in
whatever order. It signs for these and no others, and whoever has the text and the signature finds
the address again, with no wallet at hand.

## Main definitions

* `Wallet.ofKeys`: the wallet that keys were added to, one after the other
* `Wallet.Consistent`: how a wallet answers that holds certain keys

## Main results

* `PersonalMessage.recover?_encode`: the signer is found from the written signature
* `PersonalMessage.recover?_eq_none`: other lengths and other last bytes are no signatures
* `Wallet.consistent_ofKeys`: every wallet answers for the keys that were added to it
* `Wallet.sign?_leastKey`: what the key 1 signs over a message that is composed
-/

namespace StateChannel

/-! ### Addresses -/

namespace Address

/-- The digits of an address, in either case. -/
def digits : List Char :=
  ['0', '1', '2', '3', '4', '5', '6', '7', '8', '9', 'a', 'b', 'c', 'd', 'e', 'f']

theorem isDigit_iff {c : Char} : IsDigit c ↔ c ∈ digits := by
  have small : ∀ k : Fin 128, IsDigit (Char.ofNat k) ↔ Char.ofNat k ∈ digits := by
    decide +kernel
  have agree (below : c.toNat < 128) : IsDigit c ↔ c ∈ digits := by
    simpa using small ⟨c.toNat, below⟩
  constructor
  · intro digit
    refine (agree ?_).1 digit
    rcases digit with ⟨-, upper⟩ | ⟨-, upper⟩
    · exact Nat.lt_of_le_of_lt (UInt32.le_iff_toNat_le.1 upper) (by decide)
    · exact Nat.lt_of_le_of_lt (UInt32.le_iff_toNat_le.1 upper) (by decide)
  · intro member
    have below : ∀ d ∈ digits, d.toNat < 128 := by simp [digits]
    exact (agree (below c member)).2 member

/-- A valid address is `0x` with forty of the `digits`. -/
theorem isValid_iff {text : String} :
    IsValid text ↔ ∃ cs : List Char, cs.length = 40 ∧ (∀ c ∈ cs, c ∈ digits) ∧
      text = "0x" ++ String.ofList cs := by
  constructor
  · rintro ⟨head, count, all⟩
    refine ⟨text.toList.drop 2, count, fun c member => isDigit_iff.1 (all c member), ?_⟩
    calc text = String.ofList (text.toList.take 2 ++ text.toList.drop 2) := by
          rw [List.take_append_drop, String.ofList_toList]
      _ = "0x" ++ String.ofList (text.toList.drop 2) := by rw [head, String.ofList_append]
  · rintro ⟨cs, count, all, rfl⟩
    have characters : ("0x" ++ String.ofList cs).toList = '0' :: 'x' :: cs := by simp
    rw [IsValid, characters]
    exact ⟨rfl, count, fun c member => isDigit_iff.2 (all c member)⟩

end Address

/-! ### Written signatures -/

namespace PersonalMessage

/-- The numbers of a signature, which stand before the last byte. -/
def numbers (signature : Signature) : Bytes :=
  Bytes.ofNat 32 signature.r ++ Bytes.ofNat 32 signature.s

theorem length_numbers (signature : Signature) : (numbers signature).length = 64 := by
  simp [numbers]

theorem encode_eq (signature : Signature) :
    encode signature = numbers signature ++ [27 + UInt8.ofNat signature.recoveryId] := rfl

/-- A canonical `signature` is read back under both last bytes `v` of its parity, if its secret
point is not `beyond` the order. -/
theorem decode?_numbers {signature : Signature} {v : UInt8} (canonical : signature.IsCanonical)
    (near : signature.beyond = false) (parity : parity? v = some signature.odd) :
    decode? (numbers signature ++ [v]) = some signature := by
  have fitsR : signature.r < 256 ^ 32 := canonical.2.1.trans (by decide)
  have fitsS : signature.s < 256 ^ 32 := canonical.2.2.2.trans_lt (by decide)
  -- The numbers have 32 bytes each, and the byte behind them is the last.
  have last : (numbers signature ++ [v]).drop 64 = [v] := by
    rw [List.drop_append_of_le_length (length_numbers signature).ge,
      List.drop_of_length_le (length_numbers signature).le, List.nil_append]
  have first : (numbers signature ++ [v]).take 32 = Bytes.ofNat 32 signature.r := by
    rw [numbers, List.append_assoc, List.take_left' (Bytes.length_ofNat 32 signature.r)]
  have second : ((numbers signature ++ [v]).drop 32).take 32 = Bytes.ofNat 32 signature.s := by
    rw [numbers, List.append_assoc, List.drop_left' (Bytes.length_ofNat 32 signature.r),
      List.take_left' (Bytes.length_ofNat 32 signature.s)]
  rw [decode?, last]
  dsimp only
  rw [parity, first, second, Option.map_some, Bytes.toNat_ofNat fitsR, Bytes.toNat_ofNat fitsS,
    ← near]

theorem length_encode (signature : Signature) : (encode signature).length = 65 := by
  rw [encode_eq, List.length_append, length_numbers, List.length_singleton]

/-- With a recovery id below 2 the last byte `v` tells the parity, and does so when it is lowered
by 27 too. -/
theorem encode_eq_of_recoveryId {signature : Signature} (id : signature.recoveryId < 2) :
    signature.beyond = false ∧ ∃ v, encode signature = numbers signature ++ [v] ∧
      (v = 27 ∨ v = 28) ∧ ∀ last ∈ [v, v - 27], parity? last = some signature.odd := by
  have near : signature.beyond = false := by
    rw [Signature.recoveryId] at id
    cases beyond : signature.beyond with
    | false => rfl
    | true => simp [beyond] at id
  refine ⟨near, _, encode_eq signature, ?_⟩
  rw [Signature.recoveryId, near]
  cases signature.odd <;> decide +kernel

/-- From what `key` signed for the hash of `text`, `recover?` finds the address of `key`. -/
theorem recover?_numbers {key : SecretKey} {text : String} {signature : Signature} {v : UInt8}
    (signed : key.sign? (hash text) = some signature) (near : signature.beyond = false)
    (parity : parity? v = some signature.odd) :
    recover? text (numbers signature ++ [v]) = some key.address := by
  have canonical := (key.equation_of_sign? signed).1
  rw [recover?, decode?_numbers canonical near parity, Option.bind_eq_bind, Option.bind_some,
    key.recover?_of_sign? signed]
  rfl

theorem parity?_eq_none {v : UInt8} (other : v ∉ [0, 1, 27, 28]) : parity? v = none := by
  simp only [List.mem_cons, List.not_mem_nil, or_false, not_or] at other
  rw [parity?, if_neg (by tauto), if_neg (by tauto)]

/-- `recover?` gives `none` for bytes of another length than 65, or with a last byte that stands
for no recovery id. -/
theorem recover?_eq_none {text : String} {bs : Bytes}
    (other : bs.length ≠ 65 ∨ ∀ v ∈ bs.getLast?, v ∉ [0, 1, 27, 28]) : recover? text bs = none := by
  have unread : decode? bs = none := by
    -- What is read has 64 bytes and one more behind them, and its parity is that of the last byte.
    rw [decode?]
    split
    · next v last =>
      have length : bs.length = 65 := by
        have one := congrArg List.length last
        rw [List.length_drop, List.length_singleton] at one
        omega
      have ends : bs.getLast? = some v :=
        List.getLast?_eq_some_iff.2 ⟨bs.take 64, by rw [← last, List.take_append_drop]⟩
      rcases other with long | byte
      · exact absurd length long
      · rw [parity?_eq_none (byte v ends), Option.map_none]
    · rfl
  rw [recover?, unread]
  rfl

end PersonalMessage

/-! ### The keys -/

namespace Wallet

open Signing (Asking)

/-- The wallet that `keys` were added to, one after the other. -/
def ofKeys (keys : List SecretKey) : Wallet := keys.foldl insert empty

theorem holds_foldl_insert {keys : List SecretKey} {w : Wallet} {address : String} :
    (keys.foldl insert w).Holds address ↔
      (∃ key ∈ keys, key.address = address) ∨ w.Holds address := by
  induction keys generalizing w with
  | nil => simp
  | cons key keys ih =>
    rw [List.foldl_cons, ih, holds_insert, List.exists_mem_cons_iff, or_left_comm, or_assoc,
      eq_comm (a := address)]

theorem holds_ofKeys {keys : List SecretKey} {address : String} :
    (ofKeys keys).Holds address ↔ ∃ key ∈ keys, key.address = address := by
  have nothing : ¬ empty.Holds address := by simp [Holds, addresses, empty]
  rw [ofKeys, holds_foldl_insert, or_iff_left nothing]

/-- An entry of `w` with `keys` inserted has one of `keys`, or was in `w`. -/
theorem mem_of_mem_entries {keys : List SecretKey} {w : Wallet} {entry : String × SecretKey}
    (member : entry ∈ (keys.foldl insert w).entries) : entry.2 ∈ keys ∨ entry ∈ w.entries := by
  induction keys generalizing w with
  | nil => exact .inr member
  | cons key keys ih =>
    rcases ih member with later | before
    · exact .inl (List.mem_cons_of_mem key later)
    · rcases List.mem_cons.1 before with rfl | old
      · exact .inl List.mem_cons_self
      · exact .inr (List.mem_of_mem_filter old)

/-- The `key` that is found for `address` in `ofKeys keys` is one of `keys`, and has this
address. -/
theorem mem_of_key?_ofKeys {keys : List SecretKey} {address : String} {key : SecretKey}
    (found : (ofKeys keys).key? address = some key) : key ∈ keys ∧ key.address = address := by
  have entry : (address, key) ∈ (ofKeys keys).entries := by
    obtain ⟨before, after, split, -⟩ := List.lookup_eq_some_iff.1 found
    simp [split]
  refine ⟨?_, ((ofKeys keys).address_eq _ entry).symm⟩
  exact (mem_of_mem_entries entry).resolve_right (by simp [empty])

theorem size_ofKeys (keys : List SecretKey) :
    (ofKeys keys).size = (keys.map SecretKey.address).toFinset.card := by
  have same : (ofKeys keys).addresses.toFinset = (keys.map SecretKey.address).toFinset := by
    ext address
    rw [List.mem_toFinset, List.mem_toFinset, List.mem_map]
    exact holds_ofKeys
  calc (ofKeys keys).size = (ofKeys keys).addresses.length := (List.length_map _).symm
    _ = (ofKeys keys).addresses.toFinset.card :=
        (List.toFinset_card_of_nodup (ofKeys keys).nodup).symm
    _ = (keys.map SecretKey.address).toFinset.card := by rw [same]

variable {σ : Type}

/-- `ask` answers, in `state`, whether `P` holds, and leaves `state` as it is. -/
def Tells (ask : Asking σ Bool) (state : σ) (P : Prop) : Prop :=
  ∃ b, ask.run.run state = (.ok b, state) ∧ (b = true ↔ P)

/-- How the wallet `w` answers that holds `keys`, asked in `state`. -/
structure Consistent (w : Wallet) (keys : List SecretKey) (state : σ) : Prop where
  /-- The addresses of `keys` are counted once each. -/
  size : w.size = (keys.map SecretKey.address).toFinset.card
  /-- `isMine` tells the addresses of `keys`, and no others. -/
  isMine : ∀ address, Tells ((w.oracle σ).isMine address) state
    (∃ key ∈ keys, key.address = address)
  /-- `validateAddress` tells whether an address is `0x` with forty digits. -/
  validateAddress : ∀ address, Tells ((w.oracle σ).validateAddress address) state
    (∃ cs : List Char, cs.length = 40 ∧ (∀ c ∈ cs, c ∈ Address.digits) ∧
      address = "0x" ++ String.ofList cs)
  /-- An address of one of `keys` is valid. -/
  valid_of_mine : ∀ address, (∃ key ∈ keys, key.address = address) →
    ((w.oracle σ).validateAddress address).run.run state = (.ok true, state)
  /-- Signing for an address of none of `keys` fails as `unknownAddress`. -/
  unknown : ∀ address message, (¬ ∃ key ∈ keys, key.address = address) →
    ((w.oracle σ).sign address message).run.run state = (.error (.unknownAddress address), state)
  /-- Signing for an address of one of `keys` does not fail as `unknownAddress`. -/
  known : ∀ address message, (∃ key ∈ keys, key.address = address) → ∀ other,
    (((w.oracle σ).sign address message).run.run state).1 ≠ .error (.unknownAddress other)
  /-- What is signed for `address` is the signature of one of `keys`, in 65 bytes. If its recovery
  id is below 2, the last byte is 27 or 28, and under it, or under it lowered by 27, recovery finds
  `address`. -/
  sign : ∀ address message bytes,
    (((w.oracle σ).sign address message).run.run state).1 = .ok bytes →
      ∃ key ∈ keys, key.address = address ∧
        ∃ signature, key.sign? (PersonalMessage.hash message) = some signature ∧
          bytes = PersonalMessage.encode signature ∧ bytes.length = 65 ∧
            (signature.recoveryId < 2 → ∃ body v, bytes = body ++ [v] ∧ (v = 27 ∨ v = 28) ∧
              ∀ last ∈ [v, v - 27],
                ((verifier σ).recoverSigner message (body ++ [last])).run.run state =
                  (.ok (some address), state))
  /-- Recovery gives `none` for bytes of another length, or with another last byte. -/
  recoverSigner : ∀ message (other : Bytes),
    (other.length ≠ 65 ∨ ∀ v ∈ other.getLast?, v ∉ [0, 1, 27, 28]) →
      ((verifier σ).recoverSigner message other).run.run state = (.ok none, state)

theorem sign_of_stranger {w : Wallet} {address : String} (stranger : ¬ w.Holds address)
    (message : String) (state : σ) : ((w.oracle σ).sign address message).run.run state =
      (.error (.unknownAddress address), state) := by
  dsimp only [oracle]
  rw [key?_eq_none_iff.2 stranger]
  rfl

/-- With a `key` for `address`, signing gives the signature of `key` or fails as a signature error;
the address is not called unknown. -/
theorem sign_of_key? {w : Wallet} {address : String} {key : SecretKey}
    (found : w.key? address = some key) (message : String) (state : σ) :
    (((w.oracle σ).sign address message).run.run state).1 =
      match PersonalMessage.sign? key message with
      | none => .error (.signing "signature error")
      | some bytes => .ok bytes := by
  have asked : (w.oracle σ).sign address message =
      answerOf (PersonalMessage.sign? key message) := by
    dsimp only [oracle]
    rw [found]
  rw [asked]
  cases PersonalMessage.sign? key message <;> rfl

/-- **Every wallet answers for the keys that were added to it**: `ofKeys keys` is `Consistent` in
any `state`. -/
theorem consistent_ofKeys (keys : List SecretKey) (state : σ) :
    (ofKeys keys).Consistent keys state where
  size := size_ofKeys keys
  isMine address := ⟨_, rfl, decide_eq_true_iff.trans holds_ofKeys⟩
  validateAddress address := ⟨_, rfl, decide_eq_true_iff.trans Address.isValid_iff⟩
  valid_of_mine address := by
    rintro ⟨key, -, rfl⟩
    exact congrArg (fun b => (Except.ok b, state)) (decide_eq_true (Address.isValid_ofPoint _))
  unknown address message stranger :=
    sign_of_stranger (fun held => stranger (holds_ofKeys.1 held)) message state
  known address message own other := by
    obtain ⟨key, found⟩ := Option.ne_none_iff_exists'.1 fun none =>
      key?_eq_none_iff.1 none (holds_ofKeys.2 own)
    rw [sign_of_key? found]
    split <;> exact nofun
  sign address message bytes signed := by
    cases found : (ofKeys keys).key? address with
    | none =>
      rw [sign_of_stranger (key?_eq_none_iff.1 found)] at signed
      exact nomatch signed
    | some key =>
      obtain ⟨member, rfl⟩ := mem_of_key?_ofKeys found
      -- A held key signs, or it gives no signature and the call fails for another reason.
      rw [sign_of_key? found, PersonalMessage.sign?] at signed
      cases made : key.sign? (PersonalMessage.hash message) with
      | none =>
        rw [made] at signed
        exact nomatch signed
      | some signature =>
        rw [made] at signed
        obtain rfl := Except.ok.inj signed
        refine ⟨key, member, rfl, signature, made, rfl, PersonalMessage.length_encode signature, ?_⟩
        intro id
        obtain ⟨near, v, written, byte, parity⟩ := PersonalMessage.encode_eq_of_recoveryId id
        -- Both last bytes have the parity that was written, so either leads back to the key.
        refine ⟨_, v, written, byte, fun last member => ?_⟩
        exact congrArg (fun signer => (Except.ok signer, state))
          (PersonalMessage.recover?_numbers made near (parity last member))
  recoverSigner message other shape :=
    congrArg (fun signer => (Except.ok signer, state)) (PersonalMessage.recover?_eq_none shape)

/-! ### A key that signs -/

/-- The only key of a wallet is found under its address. -/
theorem key?_ofKeys_singleton (key : SecretKey) : (ofKeys [key]).key? key.address = some key := by
  simp [ofKeys, insert, empty, key?]

/-- The least of all keys. -/
def leastKey : SecretKey := ⟨1, by decide, by decide⟩

/-- A message about a game of chess, as it is composed for its participants. -/
def chessMessage : String :=
  "Game-Channel Signature\nGame ID: chess\n" ++
    "Channel: 0000000000000000000000000000000000000000000000000000000000000000\n" ++
    "Reinit: Bw==\nTopic: state\n" ++
    "Data Hash: 4bf5122f344554c53bde2ebb8cd2b7e3d1600ad631c385a5d7cce23c7785459a"

/-- The hash of `chessMessage`. -/
def chessHash : Bytes :=
  [229, 229, 1, 213, 49, 209, 10, 36, 108, 42, 20, 119, 95, 17, 254, 106,
    187, 238, 59, 213, 102, 55, 84, 245, 133, 184, 129, 180, 31, 197, 155, 25]

/-- The signature of `leastKey` over `chessMessage`. -/
def chessSignature : Signature where
  r := 10346274712064966273534542067044184454117846673002980937466201002590493295964
  s := 5725926452656033606830709135644524021194236487842103935240840907853377137394
  odd := false
  beyond := false

theorem hash_chessMessage : PersonalMessage.hash chessMessage = chessHash := by decide +kernel

theorem sign?_leastKey :
    leastKey.sign? (PersonalMessage.hash chessMessage) = some chessSignature := by
  -- The hash goes into the secret scalar and into the signature, so it is evaluated on its own.
  rw [hash_chessMessage]
  decide +kernel

/-- `leastKey` is held and signs with the recovery id 0: the signature has 65 bytes, and under both
last bytes that stand for this id it leads back to the address. -/
example (state : σ) :
    chessSignature.recoveryId = 0 ∧ (PersonalMessage.encode chessSignature).length = 65 ∧
    (((ofKeys [leastKey]).oracle σ).sign leastKey.address chessMessage |>.run.run state).1 =
      .ok (PersonalMessage.encode chessSignature) ∧
    ∀ last ∈ [(27 : UInt8), 0], PersonalMessage.recover? chessMessage
      (PersonalMessage.numbers chessSignature ++ [last]) = some leastKey.address := by
  refine ⟨rfl, PersonalMessage.length_encode _, ?_, fun last member => ?_⟩
  · rw [sign_of_key? (key?_ofKeys_singleton leastKey), PersonalMessage.sign?, sign?_leastKey]
    rfl
  · have parity : PersonalMessage.parity? last = some false := by
      rcases List.mem_pair.1 member with rfl | rfl <;> rfl
    exact PersonalMessage.recover?_numbers sign?_leastKey rfl parity

end Wallet

end StateChannel
