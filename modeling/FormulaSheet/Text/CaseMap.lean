import FormulaSheet.Text.Classes

/-!
Case. `lower` and `upper` map a text to lower and upper case, where one character may become
several and a capital sigma that ends a word becomes a final sigma. `fold` sends characters that
differ in case alone to one character.
-/

namespace FormulaSheet.Text

private def lowerRuns : Array Table.Shift := Table.Shift.decode
  "41-5a:32 c0-d6:32 d8-de:32 100-12e/1 132-136/1 139-147/1 14a-176/1 178-178:-121 179-17d/1
   181-181:210 182-184/1 186-186:206 187-187:1 189-18a:205 18b-18b:1 18e-18e:79 18f-18f:202
   190-190:203 191-191:1 193-193:205 194-194:207 196-196:211 197-197:209 198-198:1 19c-19c:211
   19d-19d:213 19f-19f:214 1a0-1a4/1 1a6-1a6:218 1a7-1a7:1 1a9-1a9:218 1ac-1ac:1 1ae-1ae:218
   1af-1af:1 1b1-1b2:217 1b3-1b5/1 1b7-1b7:219 1b8-1b8:1 1bc-1bc:1 1c4-1c4:2 1c5-1c5:1 1c7-1c7:2
   1c8-1c8:1 1ca-1ca:2 1cb-1db/1 1de-1ee/1 1f1-1f1:2 1f2-1f4/1 1f6-1f6:-97 1f7-1f7:-56 1f8-21e/1
   220-220:-130 222-232/1 23a-23a:10795 23b-23b:1 23d-23d:-163 23e-23e:10792 241-241:1
   243-243:-195 244-244:69 245-245:71 246-24e/1 370-372/1 376-376:1 37f-37f:116 386-386:38
   388-38a:37 38c-38c:64 38e-38f:63 391-3a1:32 3a3-3ab:32 3cf-3cf:8 3d8-3ee/1 3f4-3f4:-60
   3f7-3f7:1 3f9-3f9:-7 3fa-3fa:1 3fd-3ff:-130 400-40f:80 410-42f:32 460-480/1 48a-4be/1
   4c0-4c0:15 4c1-4cd/1 4d0-52e/1 531-556:48 10a0-10c5:7264 10c7-10c7:7264 10cd-10cd:7264
   13a0-13ef:38864 13f0-13f5:8 1c90-1cba:-3008 1cbd-1cbf:-3008 1e00-1e94/1 1e9e-1e9e:-7615
   1ea0-1efe/1 1f08-1f0f:-8 1f18-1f1d:-8 1f28-1f2f:-8 1f38-1f3f:-8 1f48-1f4d:-8 1f59-1f5f/-8
   1f68-1f6f:-8 1f88-1f8f:-8 1f98-1f9f:-8 1fa8-1faf:-8 1fb8-1fb9:-8 1fba-1fbb:-74 1fbc-1fbc:-9
   1fc8-1fcb:-86 1fcc-1fcc:-9 1fd8-1fd9:-8 1fda-1fdb:-100 1fe8-1fe9:-8 1fea-1feb:-112
   1fec-1fec:-7 1ff8-1ff9:-128 1ffa-1ffb:-126 1ffc-1ffc:-9 2126-2126:-7517 212a-212a:-8383
   212b-212b:-8262 2132-2132:28 2160-216f:16 2183-2183:1 24b6-24cf:26 2c00-2c2f:48 2c60-2c60:1
   2c62-2c62:-10743 2c63-2c63:-3814 2c64-2c64:-10727 2c67-2c6b/1 2c6d-2c6d:-10780
   2c6e-2c6e:-10749 2c6f-2c6f:-10783 2c70-2c70:-10782 2c72-2c72:1 2c75-2c75:1 2c7e-2c7f:-10815
   2c80-2ce2/1 2ceb-2ced/1 2cf2-2cf2:1 a640-a66c/1 a680-a69a/1 a722-a72e/1 a732-a76e/1
   a779-a77b/1 a77d-a77d:-35332 a77e-a786/1 a78b-a78b:1 a78d-a78d:-42280 a790-a792/1 a796-a7a8/1
   a7aa-a7aa:-42308 a7ab-a7ab:-42319 a7ac-a7ac:-42315 a7ad-a7ad:-42305 a7ae-a7ae:-42308
   a7b0-a7b0:-42258 a7b1-a7b1:-42282 a7b2-a7b2:-42261 a7b3-a7b3:928 a7b4-a7c2/1 a7c4-a7c4:-48
   a7c5-a7c5:-42307 a7c6-a7c6:-35384 a7c7-a7c9/1 a7d0-a7d0:1 a7d6-a7d8/1 a7f5-a7f5:1
   ff21-ff3a:32 10400-10427:40 104b0-104d3:40 10570-1057a:39 1057c-1058a:39 1058c-10592:39
   10594-10595:39 10c80-10cb2:64 118a0-118bf:32 16e40-16e5f:32 1e900-1e921:34"

private def lowerStarts : Array Nat := lowerRuns.map (·.first)

private def upperRuns : Array Table.Shift := Table.Shift.decode
  "61-7a:-32 b5-b5:743 e0-f6:-32 f8-fe:-32 ff-ff:121 101-12f/-1 131-131:-232 133-137/-1
   13a-148/-1 14b-177/-1 17a-17e/-1 17f-17f:-300 180-180:195 183-185/-1 188-188:-1 18c-18c:-1
   192-192:-1 195-195:97 199-199:-1 19a-19a:163 19e-19e:130 1a1-1a5/-1 1a8-1a8:-1 1ad-1ad:-1
   1b0-1b0:-1 1b4-1b6/-1 1b9-1b9:-1 1bd-1bd:-1 1bf-1bf:56 1c5-1c5:-1 1c6-1c6:-2 1c8-1c8:-1
   1c9-1c9:-2 1cb-1cb:-1 1cc-1cc:-2 1ce-1dc/-1 1dd-1dd:-79 1df-1ef/-1 1f2-1f2:-1 1f3-1f3:-2
   1f5-1f5:-1 1f9-21f/-1 223-233/-1 23c-23c:-1 23f-240:10815 242-242:-1 247-24f/-1 250-250:10783
   251-251:10780 252-252:10782 253-253:-210 254-254:-206 256-257:-205 259-259:-202 25b-25b:-203
   25c-25c:42319 260-260:-205 261-261:42315 263-263:-207 265-265:42280 266-266:42308
   268-268:-209 269-269:-211 26a-26a:42308 26b-26b:10743 26c-26c:42305 26f-26f:-211
   271-271:10749 272-272:-213 275-275:-214 27d-27d:10727 280-280:-218 282-282:42307 283-283:-218
   287-287:42282 288-288:-218 289-289:-69 28a-28b:-217 28c-28c:-71 292-292:-219 29d-29d:42261
   29e-29e:42258 345-345:84 371-373/-1 377-377:-1 37b-37d:130 3ac-3ac:-38 3ad-3af:-37
   3b1-3c1:-32 3c2-3c2:-31 3c3-3cb:-32 3cc-3cc:-64 3cd-3ce:-63 3d0-3d0:-62 3d1-3d1:-57
   3d5-3d5:-47 3d6-3d6:-54 3d7-3d7:-8 3d9-3ef/-1 3f0-3f0:-86 3f1-3f1:-80 3f2-3f2:7 3f3-3f3:-116
   3f5-3f5:-96 3f8-3f8:-1 3fb-3fb:-1 430-44f:-32 450-45f:-80 461-481/-1 48b-4bf/-1 4c2-4ce/-1
   4cf-4cf:-15 4d1-52f/-1 561-586:-48 10d0-10fa:3008 10fd-10ff:3008 13f8-13fd:-8 1c80-1c80:-6254
   1c81-1c81:-6253 1c82-1c82:-6244 1c83-1c84:-6242 1c85-1c85:-6243 1c86-1c86:-6236
   1c87-1c87:-6181 1c88-1c88:35266 1d79-1d79:35332 1d7d-1d7d:3814 1d8e-1d8e:35384 1e01-1e95/-1
   1e9b-1e9b:-59 1ea1-1eff/-1 1f00-1f07:8 1f10-1f15:8 1f20-1f27:8 1f30-1f37:8 1f40-1f45:8
   1f51-1f57/8 1f60-1f67:8 1f70-1f71:74 1f72-1f75:86 1f76-1f77:100 1f78-1f79:128 1f7a-1f7b:112
   1f7c-1f7d:126 1fb0-1fb1:8 1fbe-1fbe:-7205 1fd0-1fd1:8 1fe0-1fe1:8 1fe5-1fe5:7 214e-214e:-28
   2170-217f:-16 2184-2184:-1 24d0-24e9:-26 2c30-2c5f:-48 2c61-2c61:-1 2c65-2c65:-10795
   2c66-2c66:-10792 2c68-2c6c/-1 2c73-2c73:-1 2c76-2c76:-1 2c81-2ce3/-1 2cec-2cee/-1
   2cf3-2cf3:-1 2d00-2d25:-7264 2d27-2d27:-7264 2d2d-2d2d:-7264 a641-a66d/-1 a681-a69b/-1
   a723-a72f/-1 a733-a76f/-1 a77a-a77c/-1 a77f-a787/-1 a78c-a78c:-1 a791-a793/-1 a794-a794:48
   a797-a7a9/-1 a7b5-a7c3/-1 a7c8-a7ca/-1 a7d1-a7d1:-1 a7d7-a7d9/-1 a7f6-a7f6:-1 ab53-ab53:-928
   ab70-abbf:-38864 ff41-ff5a:-32 10428-1044f:-40 104d8-104fb:-40 10597-105a1:-39
   105a3-105b1:-39 105b3-105b9:-39 105bb-105bc:-39 10cc0-10cf2:-64 118c0-118df:-32
   16e60-16e7f:-32 1e922-1e943:-34"

private def upperStarts : Array Nat := upperRuns.map (·.first)

/-- Characters whose upper case is several characters. -/
private def upperLong : List (Nat × List Nat) :=
  (Table.entries "df:53+53 149:2bc+4e 1f0:4a+30c 390:399+308+301 3b0:3a5+308+301 587:535+552
    1e96:48+331 1e97:54+308 1e98:57+30a 1e99:59+30a 1e9a:41+2be 1f50:3a5+313 1f52:3a5+313+300
    1f54:3a5+313+301 1f56:3a5+313+342 1f80:1f08+399 1f81:1f09+399 1f82:1f0a+399 1f83:1f0b+399
    1f84:1f0c+399 1f85:1f0d+399 1f86:1f0e+399 1f87:1f0f+399 1f88:1f08+399 1f89:1f09+399
    1f8a:1f0a+399 1f8b:1f0b+399 1f8c:1f0c+399 1f8d:1f0d+399 1f8e:1f0e+399 1f8f:1f0f+399
    1f90:1f28+399 1f91:1f29+399 1f92:1f2a+399 1f93:1f2b+399 1f94:1f2c+399 1f95:1f2d+399
    1f96:1f2e+399 1f97:1f2f+399 1f98:1f28+399 1f99:1f29+399 1f9a:1f2a+399 1f9b:1f2b+399
    1f9c:1f2c+399 1f9d:1f2d+399 1f9e:1f2e+399 1f9f:1f2f+399 1fa0:1f68+399 1fa1:1f69+399
    1fa2:1f6a+399 1fa3:1f6b+399 1fa4:1f6c+399 1fa5:1f6d+399 1fa6:1f6e+399 1fa7:1f6f+399
    1fa8:1f68+399 1fa9:1f69+399 1faa:1f6a+399 1fab:1f6b+399 1fac:1f6c+399 1fad:1f6d+399
    1fae:1f6e+399 1faf:1f6f+399 1fb2:1fba+399 1fb3:391+399 1fb4:386+399 1fb6:391+342
    1fb7:391+342+399 1fbc:391+399 1fc2:1fca+399 1fc3:397+399 1fc4:389+399 1fc6:397+342
    1fc7:397+342+399 1fcc:397+399 1fd2:399+308+300 1fd3:399+308+301 1fd6:399+342
    1fd7:399+308+342 1fe2:3a5+308+300 1fe3:3a5+308+301 1fe4:3a1+313 1fe6:3a5+342
    1fe7:3a5+308+342 1ff2:1ffa+399 1ff3:3a9+399 1ff4:38f+399 1ff6:3a9+342 1ff7:3a9+342+399
    1ffc:3a9+399 fb00:46+46 fb01:46+49 fb02:46+4c fb03:46+46+49 fb04:46+46+4c fb05:53+54
    fb06:53+54 fb13:544+546 fb14:544+535 fb15:544+53b fb16:54e+546 fb17:544+53d").map fun e =>
    let parts := e.splitBy fun _ b => b != '+' && b != ':'
    match parts with
    | k :: rest => ((Table.takeHex k 0).1, rest.map fun p => (Table.takeHex (p.drop 1) 0).1)
    | [] => (0, [])

private def foldRuns : Array Table.Shift := Table.Shift.decode
  "41-5a:32 b5-b5:775 c0-d6:32 d8-de:32 100-12e/1 132-136/1 139-147/1 14a-176/1 178-178:-121
   179-17d/1 17f-17f:-268 181-181:210 182-184/1 186-186:206 187-187:1 189-18a:205 18b-18b:1
   18e-18e:79 18f-18f:202 190-190:203 191-191:1 193-193:205 194-194:207 196-196:211 197-197:209
   198-198:1 19c-19c:211 19d-19d:213 19f-19f:214 1a0-1a4/1 1a6-1a6:218 1a7-1a7:1 1a9-1a9:218
   1ac-1ac:1 1ae-1ae:218 1af-1af:1 1b1-1b2:217 1b3-1b5/1 1b7-1b7:219 1b8-1b8:1 1bc-1bc:1
   1c4-1c4:2 1c5-1c5:1 1c7-1c7:2 1c8-1c8:1 1ca-1ca:2 1cb-1db/1 1de-1ee/1 1f1-1f1:2 1f2-1f4/1
   1f6-1f6:-97 1f7-1f7:-56 1f8-21e/1 220-220:-130 222-232/1 23a-23a:10795 23b-23b:1 23d-23d:-163
   23e-23e:10792 241-241:1 243-243:-195 244-244:69 245-245:71 246-24e/1 345-345:116 370-372/1
   376-376:1 37f-37f:116 386-386:38 388-38a:37 38c-38c:64 38e-38f:63 391-3a1:32 3a3-3ab:32
   3c2-3c2:1 3cf-3cf:8 3d0-3d0:-30 3d1-3d1:-25 3d5-3d5:-15 3d6-3d6:-22 3d8-3ee/1 3f0-3f0:-54
   3f1-3f1:-48 3f4-3f4:-60 3f5-3f5:-64 3f7-3f7:1 3f9-3f9:-7 3fa-3fa:1 3fd-3ff:-130 400-40f:80
   410-42f:32 460-480/1 48a-4be/1 4c0-4c0:15 4c1-4cd/1 4d0-52e/1 531-556:48 10a0-10c5:7264
   10c7-10c7:7264 10cd-10cd:7264 13f8-13fd:-8 1c80-1c80:-6222 1c81-1c81:-6221 1c82-1c82:-6212
   1c83-1c84:-6210 1c85-1c85:-6211 1c86-1c86:-6204 1c87-1c87:-6180 1c88-1c88:35267
   1c90-1cba:-3008 1cbd-1cbf:-3008 1e00-1e94/1 1e9b-1e9b:-58 1e9e-1e9e:-7615 1ea0-1efe/1
   1f08-1f0f:-8 1f18-1f1d:-8 1f28-1f2f:-8 1f38-1f3f:-8 1f48-1f4d:-8 1f59-1f5f/-8 1f68-1f6f:-8
   1f88-1f8f:-8 1f98-1f9f:-8 1fa8-1faf:-8 1fb8-1fb9:-8 1fba-1fbb:-74 1fbc-1fbc:-9
   1fbe-1fbe:-7173 1fc8-1fcb:-86 1fcc-1fcc:-9 1fd8-1fd9:-8 1fda-1fdb:-100 1fe8-1fe9:-8
   1fea-1feb:-112 1fec-1fec:-7 1ff8-1ff9:-128 1ffa-1ffb:-126 1ffc-1ffc:-9 2126-2126:-7517
   212a-212a:-8383 212b-212b:-8262 2132-2132:28 2160-216f:16 2183-2183:1 24b6-24cf:26
   2c00-2c2f:48 2c60-2c60:1 2c62-2c62:-10743 2c63-2c63:-3814 2c64-2c64:-10727 2c67-2c6b/1
   2c6d-2c6d:-10780 2c6e-2c6e:-10749 2c6f-2c6f:-10783 2c70-2c70:-10782 2c72-2c72:1 2c75-2c75:1
   2c7e-2c7f:-10815 2c80-2ce2/1 2ceb-2ced/1 2cf2-2cf2:1 a640-a66c/1 a680-a69a/1 a722-a72e/1
   a732-a76e/1 a779-a77b/1 a77d-a77d:-35332 a77e-a786/1 a78b-a78b:1 a78d-a78d:-42280 a790-a792/1
   a796-a7a8/1 a7aa-a7aa:-42308 a7ab-a7ab:-42319 a7ac-a7ac:-42315 a7ad-a7ad:-42305
   a7ae-a7ae:-42308 a7b0-a7b0:-42258 a7b1-a7b1:-42282 a7b2-a7b2:-42261 a7b3-a7b3:928 a7b4-a7c2/1
   a7c4-a7c4:-48 a7c5-a7c5:-42307 a7c6-a7c6:-35384 a7c7-a7c9/1 a7d0-a7d0:1 a7d6-a7d8/1
   a7f5-a7f5:1 ab70-abbf:-38864 ff21-ff3a:32 10400-10427:40 104b0-104d3:40 10570-1057a:39
   1057c-1058a:39 1058c-10592:39 10594-10595:39 10c80-10cb2:64 118a0-118bf:32 16e40-16e5f:32
   1e900-1e921:34"

private def foldStarts : Array Nat := foldRuns.map (·.first)

/-- The lower case of one character, whatever stands around it. -/
def lowerChar (c : Char) : List Char :=
  if c.toNat < 128 then [if 'A' ≤ c ∧ c ≤ 'Z' then Char.ofNat (c.toNat + 32) else c]
  else if c.toNat = 0x130 then ['i', Char.ofNat 0x307]
  else [Char.ofNat (Table.Shift.apply lowerRuns lowerStarts c.toNat)]

/-- The upper case of one character. -/
def upperChar (c : Char) : List Char :=
  if c.toNat < 128 then [if 'a' ≤ c ∧ c ≤ 'z' then Char.ofNat (c.toNat - 32) else c]
  else
    match upperLong.find? fun p => p.1 == c.toNat with
    | some (_, cs) => cs.map Char.ofNat
    | none => [Char.ofNat (Table.Shift.apply upperRuns upperStarts c.toNat)]

/-- Whether the first character that is not skipped has case. -/
def meetsCased (cs : List Char) : Bool :=
  match cs.dropWhile isCaseIgnorable with
  | c :: _ => isCased c
  | [] => false

/-- Lower case of the rest of a text, after the characters `before` and with the lower case `done`
of these, both with the nearest first. -/
def lowerFrom (before done : List Char) : List Char → List Char
  | [] => done.reverse
  | c :: cs =>
    let here :=
      if c.toNat = 0x3A3 then
        [Char.ofNat (if meetsCased before && !meetsCased cs then 0x3C2 else 0x3C3)]
      else lowerChar c
    lowerFrom (c :: before) (here.reverseAux done) cs

def lower (cs : List Char) : List Char := lowerFrom [] [] cs

def upper (cs : List Char) : List Char := cs.flatMap upperChar

def toLower (s : String) : String := String.ofList (lower s.toList)

def toUpper (s : String) : String := String.ofList (upper s.toList)

/-- The representative of a character among those that differ from it in case alone. -/
def fold (c : Char) : Char :=
  if c.toNat < 128 then (if 'A' ≤ c ∧ c ≤ 'Z' then Char.ofNat (c.toNat + 32) else c)
  else Char.ofNat (Table.Shift.apply foldRuns foldStarts c.toNat)

/-- The characters that differ from `c` in case alone, `c` among them. -/
def caseVariants (c : Char) : List Char :=
  let f := (fold c).toNat
  Char.ofNat f :: (Table.Shift.sources foldRuns f).map Char.ofNat

end FormulaSheet.Text
