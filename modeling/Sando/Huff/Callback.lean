/-
The callback.

Everything that is not a message of the searcher with the block number in front arrives here. The
contract hashes three candidate pool addresses from the pool key hash in calldata, in one scratch area
of memory, and pays the caller when it is one of them. `callback_executes` runs the whole path: the
transaction must come from the searcher and the caller must be a pool of a known factory, and then the
one effect is a token transfer to the caller.
-/

import Sando.Huff.Arguments
import Sando.Huff.Layout

namespace Sando.Huff

open Sando.Evm Sando.Evm.Context Memory

/-! ### Pools of known factories -/

/-- A factory, with the init code hash of its pools. -/
def uniswapFactory : Address × Word :=
  (0x1F98431c8aD98523631AE4a59f267346ea31F984, uniswapPairInitCodeHash)

def pancakeFactory : Address × Word :=
  (0x41ff9AA7e16B8B1a8a8dc4f0eFacd93D02d071c9, pancakePairInitCodeHash)

def sushiswapFactory : Address × Word :=
  (0xbaceb8ec6b9355dfc0269c18bac9d6e2bdc29c4f, uniswapPairInitCodeHash)

/-- The factories, in the order of the code. -/
def factories : List (Address × Word) := [uniswapFactory, pancakeFactory, sushiswapFactory]

/-- The address at which a factory deploys the pool with a given key. -/
def poolAddress (keccak : List Byte → Word) (factory : Address × Word) (poolKeyHash : Word) :
    Address :=
  (keccak (bigEndian 1 0xff ++ bigEndian 20 factory.1.toNat ++ bigEndian 32 poolKeyHash.toNat
    ++ bigEndian 32 factory.2.toNat)).setWidth 160

/-- The account is the pool with this key of one of the given factories. -/
def IsPoolOf (candidates : List (Address × Word)) (keccak : List Byte → Word) (account : Address)
    (poolKeyHash : Word) : Prop :=
  ∃ factory ∈ candidates, account = poolAddress keccak factory poolKeyHash

instance (candidates : List (Address × Word)) (keccak : List Byte → Word) (account : Address)
    (poolKeyHash : Word) : Decidable (IsPoolOf candidates keccak account poolKeyHash) := by
  unfold IsPoolOf
  infer_instance

/-- A callback that the contract pays: the searcher started the transaction, and the caller is the
pool whose key hash it sent. -/
def Message.Pays (world : World) (message : Message) : Prop :=
  message.origin = searcherAddress
    ∧ IsPoolOf factories world.keccak message.caller (wordAt message.data 0x99)

instance (world : World) (message : Message) : Decidable (message.Pays world) := by
  unfold Message.Pays
  infer_instance

/-- What a paid pool is owed: the first amount for a swap of token 0, the second one otherwise. -/
def Message.owed (message : Message) : ℕ :=
  if message.data 0x84 = 0 then window message.data 0x24 32 else window message.data 0x04 32

/-- The payment. -/
def Message.payment (message : Message) : Event :=
  erc20Transfer (addressAt message.data 0x85) message.caller message.owed

/-! ### The hashes -/

section Hashes

variable {memory : Memory} {poolKeyHash factoryWord initCodeHash : Word}

/-- Factory, key hash and init code hash, as they lie in the scratch area. -/
def hashArguments (memory : Memory) (factoryWord poolKeyHash initCodeHash : Word) : Memory :=
  ((memory.mstore 0x00 factoryWord).mstore 0x15 poolKeyHash).mstore 0x35 initCodeHash

theorem slice_hashArguments {factory : Address}
    (aligned : factoryWord.toNat = (0xff * 256 ^ 20 + factory.toNat) * 256 ^ 11) :
    slice (hashArguments memory factoryWord poolKeyHash initCodeHash) 0 0x55
      = bigEndian 1 0xff ++ bigEndian 20 factory.toNat ++ bigEndian 32 poolKeyHash.toNat
        ++ bigEndian 32 initCodeHash.toNat := by
  have small := factory.isLt
  have mark : window (hashArguments memory factoryWord poolKeyHash initCodeHash) 0 1 = 0xff := by
    simp (disch := omega) only [hashArguments, window_mstore_outside, window_mstore_inside, aligned]
    omega
  have deployer : window (hashArguments memory factoryWord poolKeyHash initCodeHash) 1 20
      = factory.toNat := by
    simp (disch := omega) only [hashArguments, window_mstore_outside, window_mstore_inside, aligned]
    omega
  have key : window (hashArguments memory factoryWord poolKeyHash initCodeHash) 0x15 32
      = poolKeyHash.toNat := by
    simp (disch := omega) only [hashArguments, window_mstore_outside, window_mstore_same]
  have initCode : window (hashArguments memory factoryWord poolKeyHash initCodeHash) 0x35 32
      = initCodeHash.toNat := window_mstore_same
  rw [show 0x55 = 1 + 20 + 32 + 32 by rfl, slice_add, slice_add, slice_add, slice_eq_bigEndian _ _ 1,
    slice_eq_bigEndian _ _ 20, slice_eq_bigEndian _ _ 32, slice_eq_bigEndian _ _ 32, Nat.zero_add,
    mark, deployer, key, initCode]

/-- The key hash survives its hash and is read back for the next one. -/
theorem wordAt_hashArguments :
    wordAt (hashArguments memory factoryWord poolKeyHash initCodeHash) 0x15 = poolKeyHash := by
  apply BitVec.eq_of_toNat_eq
  rw [toNat_wordAt]
  simp (disch := omega) only [hashArguments, window_mstore_outside, window_mstore_same]

end Hashes

/-! ### The path -/

/-- The comparison of the caller with the pool of one factory. -/
def tryFactory (factoryWord initCodeHash : Word) : Code Label := [
  .push factoryWord, .push 0x00, .mstore, .push 0x15, .mstore,
  .push initCodeHash, .push 0x35, .mstore, .push 0x55, .push 0x00, .sha3,
  .push 0x000000000000000000000000FFFFFFFFFFFFFFFFFFFFFFFFFFFFFFFFFFFFFFFF, .and,
  .caller, .eq, .pushLabel .v3CallbackTokenTransfer, .jumpi]

/-- The payment of the amount at a calldata offset. -/
def pay (offset : Word) : Code Label := [
  .push transferSig, .push 0x00, .mstore, .caller, .push 0x04, .mstore,
  .push offset, .calldataload, .push 0x24, .mstore, .gas, .call, .pushLabel .exit, .jumpi]

section Path

variable {world : World} {message : Message} {stack : List Word} {memory : Memory}
  {events : List Event} {poolKeyHash factoryWord : Word} {rest : Code Label}

/-- Masking a word to 160 bits. -/
theorem toNat_account (word : Word) :
    (0x000000000000000000000000FFFFFFFFFFFFFFFFFFFFFFFFFFFFFFFFFFFFFFFF &&& word).toNat
      = word.toNat % 2 ^ 160 := by
  rw [BitVec.and_comm]
  exact toNat_and_lowMask _ _ 160 (by decide)

/-- The low 160 bits of a hash are an address. -/
theorem account_eq_iff (account : Address) (hash : Word) :
    account.setWidth 256
        = (0x000000000000000000000000FFFFFFFFFFFFFFFFFFFFFFFFFFFFFFFFFFFFFFFF &&& hash)
      ↔ account = hash.setWidth 160 := by
  rw [← BitVec.toNat_inj, ← BitVec.toNat_inj, toNat_account, toNat_setWidth_address,
    BitVec.toNat_setWidth]

/-- One comparison jumps exactly when the caller is the pool of the factory. -/
theorem tryFactory_block (world : World) (message : Message) {factory : Address × Word}
    {factoryWord : Word}
    (aligned : factoryWord.toNat = (0xff * 256 ^ 20 + factory.1.toNat) * 256 ^ 11)
    (poolKeyHash : Word) (stack : List Word) (memory : Memory) (rest : Code Label) :
    ∃ condition, (sandwich world message).block (tryFactory factoryWord factory.2 ++ rest)
        ⟨poolKeyHash :: stack, memory, []⟩
      = .branch ((sandwich world message).labelWord .v3CallbackTokenTransfer) condition rest
          ⟨stack, hashArguments memory factoryWord poolKeyHash factory.2, []⟩
      ∧ (condition ≠ 0 ↔ message.caller = poolAddress world.keccak factory poolKeyHash) := by
  refine ⟨_, rfl, ?_⟩
  rw [boolWord_ne_zero, decide_eq_true_iff]
  refine (account_eq_iff _ _).trans ?_
  rw [poolAddress, ← slice_hashArguments aligned]
  exact Iff.rfl

/-- Calldata byte `0x84` decides which amount is paid. -/
theorem direction_word : load message.frame 0x84 >>> 0xf8 ≠ 0 ↔ ¬ message.data 0x84 = 0 := by
  have leading : (load message.frame 0x84 >>> 0xf8).toNat = (message.data 0x84).toNat :=
    (toNat_wordAt_shiftRight _ _ 1 (by norm_num) (by norm_num)).trans window_one
  rw [not_iff_not, ← BitVec.toNat_inj, ← BitVec.toNat_inj, leading]
  exact Iff.rfl

/-- The token to pay with lies behind that byte. -/
theorem token_word :
    ((load message.frame 0x84
        &&& 0x00ffffffffffffffffffffffffffffffffffffffff0000000000000000000000) >>> 0x58).setWidth 160
      = addressAt message.data 0x85 := by
  have shifted : (load message.frame 0x84 >>> 0x58).toNat = window message.data 0x84 (1 + 20) :=
    toNat_wordAt_shiftRight _ _ 21 (by norm_num) (by norm_num)
  have mask : (0x00ffffffffffffffffffffffffffffffffffffffff0000000000000000000000 : Word) >>> 0x58
      = 0x000000000000000000000000FFFFFFFFFFFFFFFFFFFFFFFFFFFFFFFFFFFFFFFF := by decide
  apply BitVec.eq_of_toNat_eq
  rw [BitVec.ushiftRight_and_distrib, mask, BitVec.and_comm, BitVec.toNat_setWidth, toNat_account,
    shifted, toNat_addressAt, window_low message.data 0x84 1 20]
  norm_num

/-- The payment, from either branch. -/
theorem slice_payment {token : Address} {amount : Word} :
    Event.call token 0 (slice (((memory.mstore 0x00 transferSig).mstore 0x04
        (message.caller.setWidth 256)).mstore 0x24 amount) 0 0x44)
      = erc20Transfer token message.caller amount.toNat := by
  refine congrArg (Event.call token 0) (slice_eq_encodeCall rfl ?_ ?_)
  · simp (disch := omega) only [window_mstore_outside, window_mstore_inside]
    decide
  · simp (disch := omega) only [List.length_cons, List.length_nil, wordsAt, Nat.reduceAdd,
      window_mstore_outside, window_mstore_same, toNat_setWidth_address]

/-- A payment ends in the exit or in a revert, and makes one call. -/
theorem pay_ends (world : World) (message : Message) (token offset : Word) (stack : List Word)
    (memory : Memory) (rest : Code Label)
    (reverts : ∀ machine, ∃ final, (sandwich world message).block rest machine
      = .halt .revert ⟨final, machine.memory, machine.events⟩) :
    ∃ halt, (sandwich world message).Ends (pay offset ++ rest)
      ⟨token :: 0 :: 0 :: 0x44 :: 0 :: 0 :: stack, memory, []⟩
      ⟨halt, [erc20Transfer (token.setWidth 160) message.caller
        (window message.data offset.toNat 32)]⟩ := by
  obtain ⟨made, last, run, written⟩ : ∃ made last, (sandwich world message).block
        (pay offset ++ rest) ⟨token :: 0 :: 0 :: 0x44 :: 0 :: 0 :: stack, memory, []⟩
      = .branch ((sandwich world message).labelWord .exit) (boolWord (world.reply made).success) rest
          ⟨stack, last, made⟩
      ∧ made = [.call (token.setWidth 160) 0 (slice (((memory.mstore 0x00 transferSig).mstore 0x04
          (message.caller.setWidth 256)).mstore 0x24 (load message.frame offset.toNat)) 0 0x44)] :=
    ⟨_, _, rfl, rfl⟩
  rw [slice_payment, toNat_load] at written
  obtain ⟨final, halts⟩ := reverts ⟨stack, last, made⟩
  have attempts : (sandwich world message).Attempts (pay offset ++ rest)
      ⟨token :: 0 :: 0 :: 0x44 :: 0 :: 0 :: stack, memory, []⟩ ((world.reply made).success = true)
      0x2e stack made := ⟨_, _, _, last, final, run, labelWord_exit, boolWord_ne_zero, halts⟩
  rw [← written]
  by_cases succeeded : (world.reply made).success = true
  · obtain ⟨exit, lands, stops⟩ := exit_ends world message
    obtain ⟨_, leads⟩ := attempts.leads succeeded lands
    exact ⟨.stop, leads.ends (stops _)⟩
  · exact ⟨.revert, attempts.reverts succeeded⟩

/-- A paid callback makes the payment and nothing else. -/
theorem payment_ends (world : World) (message : Message) (word : Word) (memory : Memory)
    (behind : Code Label) :
    ∃ halt, (sandwich world message).Ends (v3CallbackTokenTransfer ++ behind) ⟨[word], memory, []⟩
      ⟨halt, [message.payment]⟩ := by
  obtain ⟨token, target, direction⟩ : ∃ token : Word,
      token.setWidth 160 = addressAt message.data 0x85
      ∧ (sandwich world message).block (v3CallbackTokenTransfer ++ behind) ⟨[word], memory, []⟩
        = .branch ((sandwich world message).labelWord .isZeroForOne)
            (load message.frame 0x84 >>> 0xf8)
            (pay 0x24 ++ ([.push 0x02, .dup 1, .revert] ++ behind))
            ⟨token :: 0 :: 0 :: 0x44 :: 0 :: 0 :: [word], memory, []⟩ := ⟨_, token_word, rfl⟩
  obtain ⟨behindZero, defined⟩ := codeAfter_isZeroForOne
  rw [Message.payment, Message.owed, ← target]
  by_cases second : message.data 0x84 = 0
  · have fails : load message.frame 0x84 >>> 0xf8 = 0 := by
      by_contra nonzero
      exact direction_word.mp nonzero second
    obtain ⟨halt, ends⟩ := pay_ends world message token 0x24 [word] memory
      ([.push 0x02, .dup 1, .revert] ++ behind) fun machine => ⟨machine.stack, rfl⟩
    rw [if_pos second]
    exact ⟨halt, (Leads.fall direction fails).ends ends⟩
  · obtain ⟨halt, ends⟩ := pay_ends world message token 0x04 [word] memory
      ([.chainid, .dup 1, .revert] ++ behindZero) fun machine => ⟨machine.stack, rfl⟩
    rw [if_neg second]
    exact ⟨halt, (Leads.taken direction (direction_word.mpr second)
      (codeAt_labelWord defined)).ends ends⟩

/-- A comparison that succeeds ends in the payment, one that fails goes on. -/
theorem tryFactory_ends (world : World) (message : Message) {factory : Address × Word}
    {factoryWord : Word}
    (aligned : factoryWord.toNat = (0xff * 256 ^ 20 + factory.1.toNat) * 256 ^ 11)
    (poolKeyHash word : Word) (memory : Memory) (rest : Code Label) :
    (message.caller = poolAddress world.keccak factory poolKeyHash →
      ∃ halt, (sandwich world message).Ends (tryFactory factoryWord factory.2 ++ rest)
        ⟨[poolKeyHash, word], memory, []⟩ ⟨halt, [message.payment]⟩)
    ∧ (message.caller ≠ poolAddress world.keccak factory poolKeyHash →
      (sandwich world message).Leads (tryFactory factoryWord factory.2 ++ rest)
        ⟨[poolKeyHash, word], memory, []⟩ rest
        ⟨[word], hashArguments memory factoryWord poolKeyHash factory.2, []⟩) := by
  obtain ⟨condition, branches, decides⟩ :=
    tryFactory_block world message aligned poolKeyHash [word] memory rest
  constructor
  · intro found
    obtain ⟨behind, defined⟩ := codeAfter_v3CallbackTokenTransfer
    obtain ⟨halt, ends⟩ := payment_ends world message word
      (hashArguments memory factoryWord poolKeyHash factory.2) behind
    exact ⟨halt, (Leads.taken branches (decides.mpr found) (codeAt_labelWord defined)).ends ends⟩
  · intro missed
    refine Leads.fall branches ?_
    by_contra nonzero
    exact missed (decides.mp nonzero)

/-- The factory words hold the factories behind the byte `0xff`. -/
theorem uniswapV3Factory_aligned :
    uniswapV3Factory.toNat = (0xff * 256 ^ 20 + uniswapFactory.1.toNat) * 256 ^ 11 := by
  decide

theorem pancakeV3Factory_aligned :
    pancakeV3Factory.toNat = (0xff * 256 ^ 20 + pancakeFactory.1.toNat) * 256 ^ 11 := by
  decide

theorem sushiswapV3Factory_aligned :
    sushiswapV3Factory.toNat = (0xff * 256 ^ 20 + sushiswapFactory.1.toNat) * 256 ^ 11 := by
  decide

/-- The comparisons with the remaining factories, each behind a reload of the key hash. -/
def tryNext (behind : Code Label) : List (Word × (Address × Word)) → Code Label
  | [] => [.pushLabel .exit, .jump] ++ behind
  | (factoryWord, factory) :: remaining =>
    [.push 0x15, .mload] ++ (tryFactory factoryWord factory.2 ++ tryNext behind remaining)

/-- One payment when the caller is the pool of a remaining factory, and the exit otherwise. -/
theorem tryNext_ends (world : World) (message : Message) (poolKeyHash word : Word)
    (behind : Code Label) (remaining : List (Word × (Address × Word)))
    (aligned : ∀ entry ∈ remaining,
      entry.1.toNat = (0xff * 256 ^ 20 + entry.2.1.toNat) * 256 ^ 11)
    {memory : Memory} (kept : wordAt memory 0x15 = poolKeyHash) :
    ∃ halt, (sandwich world message).Ends (tryNext behind remaining) ⟨[word], memory, []⟩
      ⟨halt, if IsPoolOf (remaining.map Prod.snd) world.keccak message.caller poolKeyHash
        then [message.payment] else []⟩ := by
  induction remaining generalizing memory with
  | nil =>
    obtain ⟨exit, lands, stops⟩ := exit_ends world message
    rw [← labelWord_exit] at lands
    have jumps : (sandwich world message).block (tryNext behind []) ⟨[word], memory, []⟩
      = .jump ((sandwich world message).labelWord .exit) ⟨[word], memory, []⟩ := rfl
    refine ⟨.stop, (Leads.jump jumps lands).ends ?_⟩
    rw [if_neg (by simp [IsPoolOf])]
    exact stops _
  | cons entry remaining ih =>
    obtain ⟨factoryWord, factory⟩ := entry
    have alignedHere : factoryWord.toNat = (0xff * 256 ^ 20 + factory.1.toNat) * 256 ^ 11 :=
      aligned (factoryWord, factory) List.mem_cons_self
    have reload : (sandwich world message).Leads
        (tryNext behind ((factoryWord, factory) :: remaining)) ⟨[word], memory, []⟩
        (tryFactory factoryWord factory.2 ++ tryNext behind remaining)
        ⟨[wordAt memory 0x15, word], memory, []⟩ := Leads.straight rfl
    rw [kept] at reload
    obtain ⟨found, missed⟩ := tryFactory_ends world message alignedHere poolKeyHash word memory
      (tryNext behind remaining)
    by_cases here : message.caller = poolAddress world.keccak factory poolKeyHash
    · obtain ⟨halt, ends⟩ := found here
      refine ⟨halt, reload.ends ?_⟩
      rw [if_pos ⟨factory, List.mem_cons_self, here⟩]
      exact ends
    · have later : IsPoolOf (((factoryWord, factory) :: remaining).map Prod.snd) world.keccak
            message.caller poolKeyHash
          ↔ IsPoolOf (remaining.map Prod.snd) world.keccak message.caller poolKeyHash := by
        simp [IsPoolOf, here]
      obtain ⟨halt, ends⟩ := ih (fun entry inside => aligned entry (List.mem_cons_of_mem _ inside))
        wordAt_hashArguments
      refine ⟨halt, (reload.trans (missed here)).ends ?_⟩
      simp only [later]
      exact ends

/-- The whole callback: one payment when the caller is to be paid, and nothing at all otherwise. -/
theorem v3Callback_ends (world : World) (message : Message) (word : Word) (behind : Code Label) :
    ∃ halt, (sandwich world message).Ends (v3Callback ++ behind) ⟨[word], zero, []⟩
      ⟨halt, if message.Pays world then [message.payment] else []⟩ := by
  have started : (sandwich world message).block (v3Callback ++ behind) ⟨[word], zero, []⟩
    = .branch ((sandwich world message).labelWord .gtfo2)
        (boolWord (boolWord (message.origin.setWidth 256 = searcher) = 0))
        (v3Callback.drop 6 ++ behind) ⟨[word], zero, []⟩ := rfl
  have condition : boolWord (boolWord (message.origin.setWidth 256 = searcher) = 0) ≠ 0
      ↔ ¬ message.origin = searcherAddress := by
    rw [boolWord_ne_zero, decide_eq_true_iff, boolWord_eq_zero, decide_eq_false_iff_not,
      setWidth_eq_searcher]
  by_cases origin : message.origin = searcherAddress
  · have passed : boolWord (boolWord (message.origin.setWidth 256 = searcher) = 0) = 0 := by
      by_contra nonzero
      exact condition.mp nonzero origin
    have keyed : (sandwich world message).Leads (v3Callback.drop 6 ++ behind) ⟨[word], zero, []⟩
        (tryFactory uniswapV3Factory uniswapFactory.2 ++ tryNext behind
          [(pancakeV3Factory, pancakeFactory), (sushiswapV3Factory, sushiswapFactory)])
        ⟨[load message.frame 0x99, word], zero, []⟩ := Leads.straight rfl
    have start := (Leads.fall started passed).trans keyed
    obtain ⟨found, missed⟩ := tryFactory_ends world message uniswapV3Factory_aligned
      (load message.frame 0x99) word zero (tryNext behind
        [(pancakeV3Factory, pancakeFactory), (sushiswapV3Factory, sushiswapFactory)])
    by_cases here : message.caller = poolAddress world.keccak uniswapFactory
        (load message.frame 0x99)
    · obtain ⟨halt, ends⟩ := found here
      refine ⟨halt, start.ends ?_⟩
      rw [if_pos ⟨origin, uniswapFactory, List.mem_cons_self, here⟩]
      exact ends
    · have later : message.Pays world
          ↔ IsPoolOf [pancakeFactory, sushiswapFactory] world.keccak message.caller
            (load message.frame 0x99) := by
        refine ⟨fun pays => ?_, fun pool => ⟨origin, ?_⟩⟩
        · obtain ⟨-, factory, inside, same⟩ := pays
          rcases List.mem_cons.mp inside with rfl | inside
          · exact absurd same here
          · exact ⟨factory, inside, same⟩
        · obtain ⟨factory, inside, same⟩ := pool
          exact ⟨factory, List.mem_cons_of_mem _ inside, same⟩
      obtain ⟨halt, ends⟩ := tryNext_ends world message (load message.frame 0x99) word behind
        [(pancakeV3Factory, pancakeFactory), (sushiswapV3Factory, sushiswapFactory)] (by
          intro entry inside
          simp only [List.mem_cons, List.not_mem_nil, or_false] at inside
          rcases inside with rfl | rfl
          · exact pancakeV3Factory_aligned
          · exact sushiswapV3Factory_aligned) wordAt_hashArguments
      refine ⟨halt, (start.trans (missed here)).ends ?_⟩
      simp only [later]
      exact ends
  · have unpaid : ¬ message.Pays world := fun pays => origin pays.1
    have halts : (sandwich world message).block gtfo2 ⟨[word], zero, []⟩
      = .halt .revert ⟨[word], zero, []⟩ := rfl
    rw [if_neg unpaid]
    exact ⟨.revert, (Leads.taken started (condition.mpr origin)
      (codeAt_labelWord codeAfter_gtfo2)).ends (Ends.halt halts)⟩

/-- A message that is not authorised makes the payment of a callback or nothing. -/
theorem callback_executes (world : World) (message : Message)
    (unauthorised : ¬ message.Authorised) :
    ∃ halt, (sandwich world message).Executes
      ⟨halt, if message.Pays world then [message.payment] else []⟩ := by
  obtain ⟨behind, entered⟩ := unauthorised_leads world unauthorised
  obtain ⟨halt, ends⟩ := v3Callback_ends world message (load message.frame 0) behind
  exact ⟨halt, entered.ends ends⟩

/-- Access control. A frame that has any effect is authorised or a callback to be paid; a frame that is
not authorised makes exactly the payment when it is to be paid, and nothing otherwise. -/
theorem access_control (world : World) (message : Message) :
    (∀ outcome, (sandwich world message).Executes outcome → outcome.events ≠ [] →
      message.Authorised ∨ message.Pays world)
    ∧ (¬ message.Authorised → ∃ halt, (sandwich world message).Executes
        ⟨halt, if message.Pays world then [message.payment] else []⟩) := by
  refine ⟨fun outcome executes effect => ?_, callback_executes world message⟩
  by_cases authorised : message.Authorised
  · exact Or.inl authorised
  · obtain ⟨halt, calls⟩ := callback_executes world message authorised
    refine Or.inr ?_
    by_contra unpaid
    rw [if_neg unpaid] at calls
    exact effect (congrArg Outcome.events (executes.unique calls))

/-- The two hashes of the pool of USDC and WETH with a fee of 500: of its key, three words, and of its
creation, 85 bytes. -/
def usdcKeccak (input : List Byte) : Word :=
  if input.length = 96 then 0x08374668a423750b443f65d645c5693995d43722b42cd84f7eeba28b008a40a2
  else 0xf066094e99fd2a2d95aa1c3a88e6a0c2ddd26feeb64f039a2c41296fcb3f5640

/-- The callback of that pool after a backrun that sells two thousand USDC. -/
def usdcCallback : Message where
  caller := 0x88e6A0c2dDD26FEEb64F039a2c41296FcB3f5640
  origin := searcherAddress
  address := 1
  callvalue := 0
  calldata := encodeCall 0xfa461e33
      [2000000000, (0 - 1000000000000000000 : Word).toNat, 0x60, 53]
    ++ poolData true 0xA0b86991c6218b36c1d19D4a2e9Eb0cE3606eB48
      0x08374668a423750b443f65d645c5693995d43722b42cd84f7eeba28b008a40a2
    ++ List.replicate 11 0
  number := 17000000
  calldata_fits := by simp [poolData]

/-- The pool is paid the two thousand USDC. -/
theorem access_control_usdc : ∃ halt,
    (sandwich ⟨usdcKeccak, fun _ => ⟨true, []⟩, fun _ => 0, 0⟩ usdcCallback).Executes
      ⟨halt, [erc20Transfer 0xA0b86991c6218b36c1d19D4a2e9Eb0cE3606eB48
        0x88e6A0c2dDD26FEEb64F039a2c41296FcB3f5640 2000000000]⟩ := by
  have paid := (access_control ⟨usdcKeccak, fun _ => ⟨true, []⟩, fun _ => 0, 0⟩ usdcCallback).2
    (by decide)
  rw [if_pos (by decide +kernel)] at paid
  exact paid

end Path

/-! ### The callback of a pool -/

/-- A pool calls back with two amounts and the data it was called with, in a transaction that the
searcher started. The caller is a contract, and no contract starts a transaction. -/
structure Message.CallsBack (message : Message) (input : List Byte) (delta0 delta1 : Word) :
    Prop where
  origin : message.origin = searcherAddress
  contract : message.caller ≠ message.origin
  calldata : ∃ selector padding, message.calldata
    = encodeCall selector [delta0.toNat, delta1.toNat, 0x60, (dynamicArgument input 4).length]
      ++ (dynamicArgument input 4 ++ padding)

section CallsBack

variable {world : World} {message : Message} {swap : V3Swap} {self : Address}
  {delta0 delta1 : Word}

/-- A callback is not dispatched. -/
theorem Message.CallsBack.unauthorised {input : List Byte}
    (callsBack : message.CallsBack input delta0 delta1) : ¬ message.Authorised := by
  intro authorised
  exact callsBack.contract (authorised.1.trans callsBack.origin.symm)

/-- The calldata of a callback is two amounts and what the pool was told to hand back. -/
theorem Message.CallsBack.data_eq (callsBack : message.CallsBack (swap.input self) delta0 delta1) :
    ∃ selector padding, message.data = byteAt
      (encodeCall selector [delta0.toNat, delta1.toNat, 0x60, 53]
        ++ (bigEndian 1 swap.zeroForOne.toNat ++ (bigEndian 20 swap.token.toNat
        ++ (bigEndian 32 swap.poolKeyHash.toNat ++ padding)))) := by
  obtain ⟨selector, padding, calldata⟩ := callsBack.calldata
  have handed : dynamicArgument (swap.input self) 4
      = poolData swap.zeroForOne swap.token swap.poolKeyHash :=
    dynamicArgument_poolSwapInput (by simp [poolData])
  refine ⟨selector, padding, ?_⟩
  rw [Message.data, calldata, handed]
  simp [poolData]

/-- The contract finds the key hash that the pool was told to hand back. -/
theorem Message.CallsBack.hash_eq (callsBack : message.CallsBack (swap.input self) delta0 delta1) :
    wordAt message.data 0x99 = swap.poolKeyHash := by
  obtain ⟨selector, padding, data⟩ := callsBack.data_eq
  apply BitVec.eq_of_toNat_eq
  rw [toNat_wordAt, data]
  simp (disch := simp) only [window_append_right, length_encodeCall, List.length_cons,
    List.length_nil, length_bigEndian, Nat.reduceAdd, Nat.reduceMul, Nat.reduceSub]
  rw [window_append_left (by simp), window_bigEndian]
  exact Nat.mod_eq_of_lt swap.poolKeyHash.isLt

/-- A caller that is not the pool of the key hash gets nothing. -/
theorem callsBack_refused (callsBack : message.CallsBack (swap.input self) delta0 delta1)
    (elsewhere : ¬ IsPoolOf factories world.keccak message.caller swap.poolKeyHash) :
    ∃ halt, (sandwich world message).Executes ⟨halt, []⟩ := by
  obtain ⟨halt, executes⟩ := callback_executes world message callsBack.unauthorised
  rw [if_neg fun pays => elsewhere (callsBack.hash_eq ▸ pays.2)] at executes
  exact ⟨halt, executes⟩

/-- The pool whose key hash was sent is paid in the token that was sent, by the amount of the side that
was sent. -/
theorem callsBack_executes (callsBack : message.CallsBack (swap.input self) delta0 delta1)
    (deployed : IsPoolOf factories world.keccak message.caller swap.poolKeyHash) :
    ∃ halt, (sandwich world message).Executes ⟨halt, [erc20Transfer swap.token message.caller
      (if swap.zeroForOne then delta0 else delta1).toNat]⟩ := by
  obtain ⟨selector, padding, data⟩ := callsBack.data_eq
  have token : addressAt message.data 0x85 = swap.token := by
    rw [data]
    simp (disch := simp) only [addressAt_append_right, length_encodeCall, List.length_cons,
      List.length_nil, length_bigEndian, Nat.reduceAdd, Nat.reduceMul, Nat.reduceSub]
    exact addressAt_bigEndian _
  have direction : (message.data 0x84).toNat = swap.zeroForOne.toNat := by
    rw [← window_one, data, window_append_right (by simp), length_encodeCall]
    simp only [List.length_cons, List.length_nil, Nat.reduceAdd, Nat.reduceMul, Nat.reduceSub]
    rw [window_append_left (by simp), window_bigEndian]
    exact Nat.mod_eq_of_lt (lt_of_le_of_lt swap.zeroForOne.toNat_le (by norm_num))
  have amount0 : window message.data 0x04 32 = delta0.toNat := by
    rw [data]
    change argument _ 0 = _
    exact argument_encodeCall (by simp) delta0.isLt
  have amount1 : window message.data 0x24 32 = delta1.toNat := by
    rw [data]
    change argument _ 1 = _
    exact argument_encodeCall (by simp) delta1.isLt
  have owed : message.owed = (if swap.zeroForOne then delta0 else delta1).toNat := by
    have side : message.data 0x84 = 0 ↔ swap.zeroForOne = false := by
      rw [← BitVec.toNat_inj, direction]
      cases swap.zeroForOne <;> decide
    simp only [Message.owed, amount0, amount1, side]
    cases swap.zeroForOne <;> rfl
  have pays : message.Pays world := ⟨callsBack.origin, callsBack.hash_eq ▸ deployed⟩
  obtain ⟨halt, executes⟩ := callback_executes world message callsBack.unauthorised
  rw [if_pos pays, Message.payment, token, owed] at executes
  exact ⟨halt, executes⟩

end CallsBack

end Sando.Huff
