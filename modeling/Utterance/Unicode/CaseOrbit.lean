import Utterance.Unicode.CaseRun

/-!
# Characters that differ in case only

A pattern that takes no account of case matches, with a character, all that differ from it in case
only. Those form sets, the orbits, given as of version 16 of the standard: most are pairs, written
as runs, and the few larger ones are listed apart.
-/
namespace Utterance.Unicode

open Utterance.Text (CharSet splitChars)

namespace CaseOrbit

/-- Pairs of characters that differ in case only. -/
def pairRuns : List CaseRun :=
  CaseRun.ofTable
    "41-4a:61 4c-52:6c 54-5a:74 c0-c4:e0 c6-d6:e6 d8-de:f8 df:1e9e ff:178 100-12e/2:101
     132-136/2:133 139-147/2:13a 14a-176/2:14b 179-17d/2:17a 180:243 181:253 182-184/2:183
     186:254 187:188 189-18a:256 18b:18c 18e:1dd 18f:259 190:25b 191:192 193:260 194:263
     195:1f6 196:269 197:268 198:199 19a:23d 19b:a7dc 19c:26f 19d:272 19e:220 19f:275
     1a0-1a4/2:1a1 1a6:280 1a7:1a8 1a9:283 1ac:1ad 1ae:288 1af:1b0 1b1-1b2:28a 1b3-1b5/2:1b4
     1b7:292 1b8:1b9 1bc:1bd 1bf:1f7 1cd-1db/2:1ce 1de-1ee/2:1df 1f4:1f5 1f8-21e/2:1f9
     222-232/2:223 23a:2c65 23b:23c 23e:2c66 23f-240:2c7e 241:242 244:289 245:28c
     246-24e/2:247 250:2c6f 251:2c6d 252:2c70 25c:a7ab 261:a7ac 264:a7cb 265:a78d 266:a7aa
     26a:a7ae 26b:2c62 26c:a7ad 271:2c6e 27d:2c64 282:a7c5 287:a7b1 29d:a7b2 29e:a7b0
     370-372/2:371 376:377 37b-37d:3fd 37f:3f3 386:3ac 388-38a:3ad 38c:3cc 38e-38f:3cd
     390:1fd3 391-393/2:3b1 394-396/2:3b4 397:3b7 39b-39d/2:3bb 39e-39f:3be 3a4-3a5:3c4
     3a7-3a8:3c7 3aa-3ab:3ca 3b0:1fe3 3cf:3d7 3d8-3ee/2:3d9 3f2:3f9 3f7:3f8 3fa:3fb
     400-40f:450 410-411:430 413-415/2:433 416-41d:436 41f-420:43f 423-429:443 42b-42f:44b
     460:461 464-480/2:465 48a-4be/2:48b 4c0:4cf 4c1-4cd/2:4c2 4d0-52e/2:4d1 531-556:561
     10a0-10c5:2d00 10c7:2d27 10cd:2d2d 10d0-10fa:1c90 10fd-10ff:1cbd 13a0-13ef:ab70
     13f0-13f5:13f8 1c89:1c8a 1d79:a77d 1d7d:2c63 1d8e:a7c6 1e00-1e5e/2:1e01 1e62-1e94/2:1e63
     1ea0-1efe/2:1ea1 1f00-1f07:1f08 1f10-1f15:1f18 1f20-1f27:1f28 1f30-1f37:1f38
     1f40-1f45:1f48 1f51-1f57/2:1f59 1f60-1f67:1f68 1f70-1f71:1fba 1f72-1f75:1fc8
     1f76-1f77:1fda 1f78-1f79:1ff8 1f7a-1f7b:1fea 1f7c-1f7d:1ffa 1f80-1f87:1f88 1f90-1f97:1f98
     1fa0-1fa7:1fa8 1fb0-1fb1:1fb8 1fb3:1fbc 1fc3:1fcc 1fd0-1fd1:1fd8 1fe0-1fe1:1fe8 1fe5:1fec
     1ff3:1ffc 2132:214e 2160-216f:2170 2183:2184 24b6-24cf:24d0 2c00-2c2f:2c30 2c60:2c61
     2c67-2c6b/2:2c68 2c72:2c73 2c75:2c76 2c80-2ce2/2:2c81 2ceb-2ced/2:2cec 2cf2:2cf3
     a640-a648/2:a641 a64c-a66c/2:a64d a680-a69a/2:a681 a722-a72e/2:a723 a732-a76e/2:a733
     a779-a77b/2:a77a a77e-a786/2:a77f a78b:a78c a790-a792/2:a791 a794:a7c4 a796-a7a8/2:a797
     a7b3:ab53 a7b4-a7c2/2:a7b5 a7c7-a7c9/2:a7c8 a7cc:a7cd a7d0:a7d1 a7d6-a7da/2:a7d7
     a7f5:a7f6 fb05:fb06
     ff21-ff3a:ff41 10400-10427:10428 104b0-104d3:104d8 10570-1057a:10597 1057c-1058a:105a3
     1058c-10592:105b3 10594-10595:105bb 10c80-10cb2:10cc0 10d50-10d65:10d70 118a0-118bf:118c0
     16e40-16e5f:16e60 1e900-1e921:1e922"

/-- Larger sets of characters that differ in case only, as a table. -/
def largeOrbitTable : String :=
  "4b.6b.212a 53.73.17f b5.39c.3bc c5.e5.212b 1c4.1c5.1c6 1c7.1c8.1c9 1ca.1cb.1cc 1f1.1f2.1f3
   345.399.3b9.1fbe 392.3b2.3d0 395.3b5.3f5 398.3b8.3d1.3f4 39a.3ba.3f0 3a0.3c0.3d6
   3a1.3c1.3f1 3a3.3c2.3c3 3a6.3c6.3d5 3a9.3c9.2126 412.432.1c80 414.434.1c81 41e.43e.1c82
   421.441.1c83 422.442.1c84.1c85 42a.44a.1c86 462.463.1c87 1c88.a64a.a64b 1e60.1e61.1e9b"

/-- Larger sets of characters that differ in case only. -/
def largeOrbits : List (List Nat) :=
  (CharSet.tableItems largeOrbitTable).map fun item =>
    (splitChars '.' item).map CharSet.hexValue

/-- Every set of characters that differ in case only. -/
def orbits : List (List Nat) :=
  largeOrbits ++ pairRuns.flatMap fun run => run.pairs.map fun pair => [pair.1, pair.2]

/-- The least set that holds, with each of its members, all that differ from it in case only. -/
def closure (set : CharSet) : CharSet :=
  let reached := orbits.filter fun orbit => orbit.any fun code => CharSet.holds code set.ranges
  if reached.isEmpty then set
  else .ofRanges (set.ranges ++ (reached.flatMap id).map fun code => ⟨code, code⟩)

/-- The least set closed under the case of ASCII letters. -/
def asciiClosure (set : CharSet) : CharSet :=
  let letters := (List.range 26).filter fun offset =>
    CharSet.holds (0x41 + offset) set.ranges || CharSet.holds (0x61 + offset) set.ranges
  .ofRanges (set.ranges ++
    letters.flatMap fun offset => [⟨0x41 + offset, 0x41 + offset⟩, ⟨0x61 + offset, 0x61 + offset⟩])

end CaseOrbit

end Utterance.Unicode
