import Budlum.Zkvm.Goldilocks

/-!
# Poseidon over Goldilocks

The permutation has width 8 and 30 rounds, four full ones at either end and 22 partial ones in
between, with the S-box `x ↦ x^7`.  A step of a Merkle path is a single first round of which only
the first output lane is kept.

* `poseidonFullState`, `merklePoseidonRound` : the functions of the virtual machine, on words.
* `permute`, `merkleStep` : the same on field elements.
* `natCast_poseidonFullState`, `natCast_merklePoseidonRound` : **the word functions compute the
  field functions.**
-/

namespace Budlum.Zkvm

/-! ### Constants -/

def poseidonMds : List (List ℕ) :=
  [[7, 1, 3, 8, 8, 3, 4, 9], [9, 7, 1, 3, 8, 8, 3, 4], [4, 9, 7, 1, 3, 8, 8, 3],
   [3, 4, 9, 7, 1, 3, 8, 8], [8, 3, 4, 9, 7, 1, 3, 8], [8, 8, 3, 4, 9, 7, 1, 3],
   [3, 8, 8, 3, 4, 9, 7, 1], [1, 3, 8, 8, 3, 4, 9, 7]]

def poseidonRcFull : List (List ℕ) :=
  [[0xdd5743e7f2a5a5d9, 0xcb3a864e58ada44b, 0xffa2449ed32f8cdc, 0x42025f65d6bd13ee,
    0x7889175e25506323, 0x34b98bb03d24b737, 0xbdcc535ecc4faa2a, 0x5b20ad869fc0d033],
   [0xf1dda5b9259dfcb4, 0x27515210be112d59, 0x4227d1718c766c3f, 0x26d333161a5bd794,
    0x49b938957bf4b026, 0x4a56b5938b213669, 0x1120426b48c8353d, 0x6b323c3f10a56cad],
   [0xce57d6245ddca6b2, 0xb1fc8d402bba1eb1, 0xb5c5096ca959bd04, 0x6db55cd306d31f7f,
    0xc49d293a81cb9641, 0x1ce55a4fe979719f, 0xa92e60a9d178a4d1, 0x002cc64973bcfd8c],
   [0xcea721cce82fb11b, 0xe5b55eb8098ece81, 0x4e30525c6f1ddd66, 0x43c6702827070987,
    0xaca68430a7b5762a, 0x3674238634df9c93, 0x88cee1c825e33433, 0xde99ae8d74b57176],
   [0x488897d85ff51f56, 0x1140737ccb162218, 0xa7eeb9215866ed35, 0x9bd2976fee49fcc9,
    0xc0c8f0de580a3fcc, 0x4fb2dae6ee8fc793, 0x343a89f35f37395b, 0x223b525a77ca72c8],
   [0x56ccb62574aaa918, 0xc4d507d8027af9ed, 0xa080673cf0b7e95c, 0xf0184884eb70dcf8,
    0x044f10b0cb3d5c69, 0xe9e3f7993938f186, 0x1b761c80e772f459, 0x606cec607a1b5fac],
   [0x14a0c2e1d45f03cd, 0x4eace8855398574f, 0xf905ca7103eff3e6, 0xf8c8f8d20862c059,
    0xb524fe8bdd678e5a, 0xfbb7865901a1ec41, 0x014ef1197d341346, 0x9725e20825d07394],
   [0xfdb25aef2c5bae3b, 0xbe5402dc598c971e, 0x93a5711f04cdca3d, 0xc45a9a5b2f8fb97b,
    0xfe8946a924933545, 0x2af997a27369091c, 0xaa62c88e0b294011, 0x058eb9d810ce9f74],
   [0xb3cb23eced349ae4, 0xa3648177a77b4a84, 0x43153d905992d95d, 0xf4e2a97cda44aa4b,
    0x5baa2702b908682f, 0x082923bdf4f750d1, 0x98ae09a325893803, 0xf8a6475077968838],
   [0xceb0735bf00b2c5f, 0x0a1a5d953888e072, 0x2fcb190489f94475, 0xb5be06270dec69fc,
    0x739cb934b09acf8b, 0x537750b75ec7f25b, 0xe9dd318bae1f3961, 0xf7462137299efe1a],
   [0xb1f6b8eee9adb940, 0xbdebcc8a809dfe6b, 0x40fc1f791b178113, 0x3ac1c3362d014864,
    0x9a016184bdb8aeba, 0x95f2394459fbc25e, 0xe3f34a07a76a66c2, 0x8df25f9ad98b1b96],
   [0x85ffc27171439d9d, 0xddcb9a2dcfd26910, 0x26b5ba4bf3afb94e, 0xffff9cc7c7651e2f,
    0x8c88364698280b55, 0xebc114167b910501, 0x2d77b4d89ecfb516, 0x332e0828eba151f2],
   [0x46fa6a6450dd4735, 0xd00db7dd92384a33, 0x5fd4fb751f3a5fc5, 0x496fb90c0bb65ea2,
    0xf3baec0bb87cc5c7, 0x862a3c0a7d4c7713, 0xbf5f38336a3f47d8, 0x41ad9dbc1394a20c],
   [0xcc535945b7dbf0f7, 0x82af2bc93685bcec, 0x8e4c8d0c8cebfccd, 0x17cb39417e84597e,
    0xd4a965a8c749b232, 0xa2cab040f33f3ee5, 0xa98811a1fed4e3a6, 0x1cc48b54f377e2a1],
   [0xe40cd4f6c5609a27, 0x11de79ebca97a4a4, 0x9177c73d8b7e929d, 0x2a6fe8085797e792,
    0x3de6e93329f8d5ae, 0x3f7af9125da962ff, 0xd710682cfc77d3ac, 0x48faf05f3b053cf4],
   [0x287db8630da89c8b, 0x4d0de32053cb30e9, 0x8b37a4f20c5ada7b, 0xe7cc6ebe78c84ecf,
    0x240bdc0a66a2610d, 0x8299e7f02caa1650, 0x380a53fefb6e754e, 0x684a1d8cf8eb6810],
   [0xe839452eb4b8a5e1, 0xb03fa62e90626af4, 0x11a688602fbc5efc, 0x30dda75c355a2d62,
    0x0f712adcb73810de, 0xffdc1102187f1ae1, 0x40c34f398254b99c, 0xede021b9dc289a4a],
   [0x8b7b05225c4e7dad, 0x3bc794346f9d9ff9, 0xfccb5a57f2ca86ff, 0xbb1502015a7da9d4,
    0xd7e0a35d4352a015, 0x27af7a44f8160931, 0xc37442f6782f4615, 0xbdf392a9bd095dcb],
   [0xc17f55037cf00de9, 0xbcffedd34c71a874, 0x5eb45d2a8133d1f2, 0xbabe251e1612ebdf,
    0x3efeb9fbe438c536, 0x2d7cef97b4afe1cf, 0xe5de1b4660016c0b, 0xcdcc26c332f5657c],
   [0xe01dd653daf15809, 0xb0a6bdd4b41094b5, 0x27eac858b0b03a05, 0x51d43b5e93adbdc0,
    0x8b89a23b0fea5fc9, 0xdc8ac3b14f7f2fc1, 0xe793f82f1efec039, 0x9f6f2cf8969e7b80],
   [0x49d45382e0f21d4a, 0x5f4ad1797cd72786, 0x4dc3dbebfd45f795, 0x03a3ef84dba6e1bc,
    0x204bc9b3d3fc4c01, 0x9ad706081e89b9ba, 0x638bfb4d840e9f89, 0x5ef2938cd095ae35],
   [0x42cca18ebeb265c8, 0xb7b2ec5c29aecbf8, 0x0d84f9535dc78f0f, 0x04e64ad942e77b8c,
    0xb4880dffffc9da0b, 0x16db16d9c29adeb1, 0x09bbaf2a0590cd1e, 0x76460e74961fcf8d],
   [0xed12a2276dfa1553, 0x0b5acec5de0436fd, 0x3c6cfea033a1f0a8, 0x2b5ecefe546cac15,
    0x6e2d82884cd3bf6f, 0xc134878d1add7b83, 0x997963422eb7a280, 0x5e834537ac648cf6],
   [0x89e779214737c0b7, 0x1a8c05e8581ad95b, 0x8d18b72796437cf7, 0xe7252c949e04b106,
    0x53267c4fd174585a, 0xa16ef5d9c81dad47, 0xda65191937270a46, 0xcb2a5b55f2df664c],
   [0x854aee2dc1924137, 0xf37013c9d479ece6, 0x0e163bc0630c4696, 0x384ee64955048f76,
    0xf65d814e28ee4ec5, 0xe57bc564fd82f1b1, 0x4b338937b6876614, 0x66ee0b04ed43cd8d],
   [0x49884bf25f4ef15d, 0xeb51fe28de1c6f54, 0x2cd64e84fce8dfcc, 0x29164a96a541a013,
    0x173ce7558f4cacb8, 0xeb5b1ce5877c89e9, 0x5faff4b0f5217bf6, 0xac42d0b1c20f205e],
   [0xfb1d6bf0ca43221b, 0x97b0a1b01d6a2955, 0x08c60bd622952b30, 0x43f2be0f9e24147c,
    0xfa7268b7d3730f5d, 0x43a6c419a23983bb, 0xcd77c1f7b29b113c, 0xcfa43c9db8eec29f],
   [0xcaaa95a6c7365dec, 0x0a91193f798f3be0, 0x1104497652735dc6, 0x35aecb93663b515e,
    0x8dbc9916065aa858, 0xada8f7a0266579ed, 0x524dee7bec1ea789, 0xa93aee9dd5af9521],
   [0x9d1f1b54750d707e, 0x7c9feab87096d5dc, 0xa2e1fb19f9d4261b, 0xb714deb448de6346,
    0x225d1f0d011c5403, 0x1549b7f1d28cedc0, 0xaef3e46f97d43942, 0x6dfc7ffe0b38bf08],
   [0x7de853fdc542b663, 0xa68ecc96610657b2, 0xe88bb5428af289b1, 0xd7cfa1504c5569f5,
    0x78a9aad0d642d30a, 0xd68315f2353dce52, 0x46e56300f86fcfd5, 0x323d95332b145fd6]]

def poseidonRounds : ℕ := 30
def poseidonHalfFull : ℕ := 4

def mdsEntry (i j : ℕ) : ℕ := (poseidonMds.getD i []).getD j 0

def roundConstant (r i : ℕ) : ℕ := (poseidonRcFull.getD r []).getD i 0

/-- The lanes of a round that go through the S-box. -/
def poseidonSboxLanes (r : ℕ) : ℕ :=
  if r < poseidonHalfFull ∨ poseidonRounds - poseidonHalfFull ≤ r then 8 else 1

/-! ### On words -/

/-- `x^7`, reduced after every product. -/
def sbox (x : ℕ) : ℕ :=
  let x2 := x * x % goldilocksP
  let x4 := x2 * x2 % goldilocksP
  x4 * x2 % goldilocksP * x % goldilocksP

/-- The sum of a row of the matrix against the lanes, reduced after every term. -/
def mixRow (row lanes : ℕ → ℕ) : ℕ :=
  (List.range 8).foldl (fun sum j => (sum + row j * lanes j) % goldilocksP) 0

/-- One round of `poseidon_full_state`. -/
def poseidonRound (r : ℕ) (s : ℕ → ℕ) : ℕ → ℕ :=
  let added := fun i => (s i + roundConstant r i) % goldilocksP
  let lanes := fun i => if i < poseidonSboxLanes r then sbox (added i) else added i
  fun i => mixRow (mdsEntry i) lanes

def poseidonFullState (s : ℕ → ℕ) : ℕ → ℕ :=
  (List.range poseidonRounds).foldl (fun s r => poseidonRound r s) s

/-- The state that starts with the given words and is zero elsewhere. -/
def lanesOf {M : Type*} [Zero M] (l : List M) : ℕ → M := fun i => l.getD i 0

def poseidon4Hash (a b : ℕ) : ℕ := poseidonFullState (lanesOf [a, b]) 0

def poseidon4Hash3 (a b c : ℕ) : ℕ := poseidonFullState (lanesOf [a, b, c]) 0

def merklePoseidonRound (a b : ℕ) : ℕ :=
  let s0 := (a + roundConstant 0 0) % goldilocksP
  let s1 := (b + roundConstant 0 1) % goldilocksP
  (7 * sbox s0 + sbox s1) % goldilocksP

/-! ### On field elements -/

/-- The lanes of a state after the round constants and the S-box. -/
def sboxLayer (r : ℕ) (s : ℕ → Goldilocks) (i : ℕ) : Goldilocks :=
  if i < poseidonSboxLanes r then (s i + roundConstant r i) ^ 7 else s i + roundConstant r i

/-- The product with the matrix. -/
def mix (s : ℕ → Goldilocks) (i : ℕ) : Goldilocks :=
  ((List.range 8).map fun j => s j * mdsEntry i j).sum

def permuteRound (r : ℕ) (s : ℕ → Goldilocks) : ℕ → Goldilocks := mix (sboxLayer r s)

/-- The first `r` rounds. -/
def permuteTo : ℕ → (ℕ → Goldilocks) → ℕ → Goldilocks
  | 0, s => s
  | r + 1, s => permuteRound r (permuteTo r s)

def permute (s : ℕ → Goldilocks) : ℕ → Goldilocks := permuteTo poseidonRounds s

/-- Poseidon of two elements. -/
def hash2 (a b : Goldilocks) : Goldilocks := permute (lanesOf [a, b]) 0

/-- One step of a Merkle path. -/
def merkleStep (a b : Goldilocks) : Goldilocks :=
  7 * (a + roundConstant 0 0) ^ 7 + (b + roundConstant 0 1) ^ 7

/-! ### The words compute the field elements -/

theorem natCast_mod_goldilocks (n : ℕ) : ((n % goldilocksP : ℕ) : Goldilocks) = n :=
  ZMod.natCast_mod n goldilocksP

theorem natCast_sbox (x : ℕ) : (sbox x : Goldilocks) = (x : Goldilocks) ^ 7 := by
  simp only [sbox, natCast_mod_goldilocks, Nat.cast_mul]
  ring

theorem natCast_merklePoseidonRound (a b : ℕ) :
    (merklePoseidonRound a b : Goldilocks) = merkleStep a b := by
  simp only [merklePoseidonRound, merkleStep, natCast_mod_goldilocks, Nat.cast_add, Nat.cast_mul,
    natCast_sbox, Nat.cast_ofNat]

theorem natCast_mixRow (row lanes : ℕ → ℕ) :
    (mixRow row lanes : Goldilocks) =
      ((List.range 8).map fun j => (lanes j * row j : Goldilocks)).sum := by
  have hfold : ∀ (l : List ℕ) (acc : ℕ),
      ((l.foldl (fun sum j => (sum + row j * lanes j) % goldilocksP) acc : ℕ) : Goldilocks) =
        acc + (l.map fun j => (lanes j * row j : Goldilocks)).sum := by
    intro l
    induction l with
    | nil => simp
    | cons j l ih =>
      intro acc
      rw [List.foldl_cons, ih, natCast_mod_goldilocks, List.map_cons, List.sum_cons]
      push_cast
      ring
  rw [mixRow, hfold, Nat.cast_zero, zero_add]

theorem natCast_poseidonRound (r : ℕ) (s : ℕ → ℕ) (i : ℕ) :
    (poseidonRound r s i : Goldilocks) = permuteRound r (fun i => (s i : Goldilocks)) i := by
  rw [poseidonRound, natCast_mixRow, permuteRound, mix]
  congr 1
  refine List.map_congr_left fun j _ => ?_
  unfold sboxLayer
  split_ifs <;> simp only [natCast_sbox, natCast_mod_goldilocks, Nat.cast_add]

theorem natCast_poseidonFullState (s : ℕ → ℕ) (i : ℕ) :
    (poseidonFullState s i : Goldilocks) = permute (fun i => (s i : Goldilocks)) i := by
  have hrounds : ∀ (n i : ℕ),
      (((List.range n).foldl (fun s r => poseidonRound r s) s i : ℕ) : Goldilocks) =
        permuteTo n (fun i => (s i : Goldilocks)) i := by
    intro n
    induction n with
    | zero => intro i; rfl
    | succ n ih =>
      intro i
      rw [List.range_succ, List.foldl_append, List.foldl_cons, List.foldl_nil,
        natCast_poseidonRound, permuteTo]
      congr 1
      funext j
      exact ih j
  exact hrounds poseidonRounds i

theorem natCast_lanesOf (l : List ℕ) (i : ℕ) :
    ((lanesOf l i : ℕ) : Goldilocks) = lanesOf (l.map (Nat.cast : ℕ → Goldilocks)) i := by
  simp only [lanesOf, List.getD_eq_getElem?_getD, List.getElem?_map]
  cases l[i]? <;> simp

theorem natCast_poseidon4Hash (a b : ℕ) : (poseidon4Hash a b : Goldilocks) = hash2 a b := by
  rw [poseidon4Hash, natCast_poseidonFullState, hash2]
  simp only [natCast_lanesOf, List.map_cons, List.map_nil]

end Budlum.Zkvm
