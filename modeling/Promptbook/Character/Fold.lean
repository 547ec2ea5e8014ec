import Promptbook.Character.Table

/-! Upper and lower case.

Characters that differ in case only are mates; a few have more than one. The table writes
mates as runs of pairs: `41-5a:61` pairs the characters from `41` to `5a` one by one with
those from `61` on, `100~12e:101` every other one likewise. A set is closed under case
when it holds the mates of all that it holds. -/
namespace Promptbook.Character

/-- Pairs of mates; the smaller code points ascend. -/
def mateTable : List String := [
  "41-5a:61 4b:212a 53:17f 6b:212a 73:17f b5:39c b5:3bc c0-d6:e0 c5:212b d8-de:f8 df:1e9e e5:212b",
  "ff:178 100~12e:101 132~136:133 139~147:13a 14a~176:14b 179~17d:17a 180:243 181:253 182~184:183",
  "186:254 187:188 189-18a:256 18b:18c 18e:1dd 18f:259 190:25b 191:192 193:260 194:263 195:1f6",
  "196:269 197:268 198:199 19a:23d 19b:a7dc 19c:26f 19d:272 19e:220 19f:275 1a0~1a4:1a1 1a6:280",
  "1a7:1a8 1a9:283 1ac:1ad 1ae:288 1af:1b0 1b1-1b2:28a 1b3~1b5:1b4 1b7:292 1b8:1b9 1bc:1bd",
  "1bf:1f7 1c4-1c5:1c5 1c4:1c6 1c7-1c8:1c8 1c7:1c9 1ca-1cb:1cb 1ca:1cc 1cd~1db:1ce 1de~1ee:1df",
  "1f1-1f2:1f2 1f1:1f3 1f4:1f5 1f8~21e:1f9 222~232:223 23a:2c65 23b:23c 23e:2c66 23f-240:2c7e",
  "241:242 244:289 245:28c 246~24e:247 250:2c6f 251:2c6d 252:2c70 25c:a7ab 261:a7ac 264:a7cb",
  "265:a78d 266:a7aa 26a:a7ae 26b:2c62 26c:a7ad 271:2c6e 27d:2c64 282:a7c5 287:a7b1 29d:a7b2",
  "29e:a7b0 345:399 345:3b9 345:1fbe 370~372:371 376:377 37b-37d:3fd 37f:3f3 386:3ac 388-38a:3ad",
  "38c:3cc 38e-38f:3cd 390:1fd3 391-3a1:3b1 392:3d0 395:3f5 398:3d1 398:3f4 399:1fbe 39a:3f0",
  "3a0:3d6 3a1:3f1 3a3:3c2 3a3-3ab:3c3 3a6:3d5 3a9:2126 3b0:1fe3 3b2:3d0 3b5:3f5 3b8:3d1 3b8:3f4",
  "3b9:1fbe 3ba:3f0 3c0:3d6 3c1:3f1 3c2:3c3 3c6:3d5 3c9:2126 3cf:3d7 3d1:3f4 3d8~3ee:3d9 3f2:3f9",
  "3f7:3f8 3fa:3fb 400-40f:450 410-42f:430 412:1c80 414:1c81 41e:1c82 421-422:1c83 422:1c85",
  "42a:1c86 432:1c80 434:1c81 43e:1c82 441-442:1c83 442:1c85 44a:1c86 460~480:461 462:1c87",
  "463:1c87 48a~4be:48b 4c0:4cf 4c1~4cd:4c2 4d0~52e:4d1 531-556:561 10a0-10c5:2d00 10c7:2d27",
  "10cd:2d2d 10d0-10fa:1c90 10fd-10ff:1cbd 13a0-13ef:ab70 13f0-13f5:13f8 1c84:1c85 1c88:a64a",
  "1c88:a64b 1c89:1c8a 1d79:a77d 1d7d:2c63 1d8e:a7c6 1e00~1e94:1e01 1e60:1e9b 1e61:1e9b",
  "1ea0~1efe:1ea1 1f00-1f07:1f08 1f10-1f15:1f18 1f20-1f27:1f28 1f30-1f37:1f38 1f40-1f45:1f48",
  "1f51~1f57:1f59 1f60-1f67:1f68 1f70-1f71:1fba 1f72-1f75:1fc8 1f76-1f77:1fda 1f78-1f79:1ff8",
  "1f7a-1f7b:1fea 1f7c-1f7d:1ffa 1f80-1f87:1f88 1f90-1f97:1f98 1fa0-1fa7:1fa8 1fb0-1fb1:1fb8",
  "1fb3:1fbc 1fc3:1fcc 1fd0-1fd1:1fd8 1fe0-1fe1:1fe8 1fe5:1fec 1ff3:1ffc 2132:214e 2160-216f:2170",
  "2183:2184 24b6-24cf:24d0 2c00-2c2f:2c30 2c60:2c61 2c67~2c6b:2c68 2c72:2c73 2c75:2c76",
  "2c80~2ce2:2c81 2ceb~2ced:2cec 2cf2:2cf3 a640~a66c:a641 a680~a69a:a681 a722~a72e:a723",
  "a732~a76e:a733 a779~a77b:a77a a77e~a786:a77f a78b:a78c a790~a792:a791 a794:a7c4 a796~a7a8:a797",
  "a7b3:ab53 a7b4~a7c2:a7b5 a7c7~a7c9:a7c8 a7cc:a7cd a7d0:a7d1 a7d6~a7da:a7d7 a7f5:a7f6 fb05:fb06",
  "ff21-ff3a:ff41 10400-10427:10428 104b0-104d3:104d8 10570~10594:10597 10571~10579:10598",
  "1057d~10589:105a4 1058d~10591:105b4 10595:105bc 10c80-10cb2:10cc0 10d50-10d65:10d70",
  "118a0-118bf:118c0 16e40-16e5f:16e60 1e900-1e921:1e922"]

/-- The pairs of one entry. -/
def pairsOf (entry : List Char) : List (Nat × Nat) :=
  match entry.span (· != ':') with
  | (source, _ :: target) =>
    let step := if source.contains '~' then 2 else 1
    let (low, high) := rangeOf (source.map fun c => if c = '~' then '-' else c)
    (List.range ((high - low) / step + 1)).map fun i => (low + step * i, hexOf target + step * i)
  | _ => []

/-- Every character that has a mate, with the mate, in ascending order. -/
def mates : List (Nat × Nat) :=
  let pairs := (entriesOf mateTable).flatMap pairsOf
  (pairs ++ pairs.map Prod.swap).mergeSort fun a b => a.1 ≤ b.1

/-- The mates of the characters in a set. -/
def matesIn : List (Nat × Nat) → Ranges → List (Nat × Nat)
  | [], _ => []
  | (n, mate) :: rest, set =>
    match set.dropWhile (·.2 < n) with
    | [] => []
    | (l, h) :: more =>
      let found := matesIn rest ((l, h) :: more)
      if l ≤ n then (mate, mate) :: found else found

/-- The set closed under case. -/
def Ranges.closeCase (set : Ranges) : Ranges := set.union (Ranges.ofList (matesIn mates set))

/-- The characters that have a mate. -/
def withMate : Ranges := Ranges.ofList (mates.map fun (n, _) => (n, n))

/-- The set closed under case among ASCII letters. -/
def Ranges.closeLowCase (set : Ranges) : Ranges :=
  set.union (Ranges.ofList (matesIn (mates.filter fun (a, b) => a < 0x80 && b < 0x80) set))

end Promptbook.Character
