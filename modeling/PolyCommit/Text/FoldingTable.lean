/-!
# Folded code points

The code points that caseless compatibility folding replaces, as of Unicode 3.2 and with the small
letters of Unicode 14. A row holds a first code point and the texts that it and those after it are
replaced by, each a sequence of numbers in hex between points. A hyphen stands for a code point that
is kept. Syllables of Hangul are not listed, because their parts are computed.
-/

namespace PolyCommit

namespace Folding

/-- The first code point of every row and its replacements. -/
def rows : List (Nat × String) := [
  (0x41, "61 62 63 64 65 66 67 68 69 6a 6b 6c 6d 6e 6f 70 71 72 73 74 75 76 77 78 79 7a"),
  (0xa0, "20"), (0xa8, "20.308 - 61"),
  (0xaf, "20.304 - - 32 33 20.301 3bc - - 20.327 31 6f - 31.2044.34 31.2044.32 33.2044.34"),
  (0xc0, "61.300 61.301 61.302 61.303 61.308 61.30a e6 63.327 65.300 65.301 65.302 65.308 69.300"),
  (0xcd, "69.301 69.302 69.308 f0 6e.303 6f.300 6f.301 6f.302 6f.303 6f.308 - f8 75.300 75.301"),
  (0xdb, "75.302 75.308 79.301 fe 73.73 61.300 61.301 61.302 61.303 61.308 61.30a - 63.327 65.300"),
  (0xe9, "65.301 65.302 65.308 69.300 69.301 69.302 69.308 - 6e.303 6f.300 6f.301 6f.302 6f.303"),
  (0xf6, "6f.308 - - 75.300 75.301 75.302 75.308 79.301 - 79.308 61.304 61.304 61.306 61.306"),
  (0x104, "61.328 61.328 63.301 63.301 63.302 63.302 63.307 63.307 63.30c 63.30c 64.30c 64.30c"),
  (0x110, "111 - 65.304 65.304 65.306 65.306 65.307 65.307 65.328 65.328 65.30c 65.30c 67.302"),
  (0x11d, "67.302 67.306 67.306 67.307 67.307 67.327 67.327 68.302 68.302 127 - 69.303 69.303"),
  (0x12a, "69.304 69.304 69.306 69.306 69.328 69.328 69.307 - 69.6a 69.6a 6a.302 6a.302 6b.327"),
  (0x137, "6b.327 - 6c.301 6c.301 6c.327 6c.327 6c.30c 6c.30c 6c.b7 6c.b7 142 - 6e.301 6e.301"),
  (0x145, "6e.327 6e.327 6e.30c 6e.30c 2bc.6e 14b - 6f.304 6f.304 6f.306 6f.306 6f.30b 6f.30b 153"),
  (0x154, "72.301 72.301 72.327 72.327 72.30c 72.30c 73.301 73.301 73.302 73.302 73.327 73.327"),
  (0x160, "73.30c 73.30c 74.327 74.327 74.30c 74.30c 167 - 75.303 75.303 75.304 75.304 75.306"),
  (0x16d, "75.306 75.30a 75.30a 75.30b 75.30b 75.328 75.328 77.302 77.302 79.302 79.302 79.308"),
  (0x179, "7a.301 7a.301 7a.307 7a.307 7a.30c 7a.30c 73 - 253 183 - 185 - 254 188 - 256 257 18c"),
  (0x18e, "1dd 259 25b 192 - 260 263 - 269 268 199 - - - 26f 272 - 275 6f.31b 6f.31b 1a3 - 1a5"),
  (0x1a6, "280 1a8 - 283 - - 1ad - 288 75.31b 75.31b 28a 28b 1b4 - 1b6 - 292 1b9 - - - 1bd"),
  (0x1c4, "64.7a.30c 64.7a.30c 64.7a.30c 6c.6a 6c.6a 6c.6a 6e.6a 6e.6a 6e.6a 61.30c 61.30c 69.30c"),
  (0x1d0, "69.30c 6f.30c 6f.30c 75.30c 75.30c 75.308.304 75.308.304 75.308.301 75.308.301"),
  (0x1d9, "75.308.30c 75.308.30c 75.308.300 75.308.300 - 61.308.304 61.308.304 61.307.304"),
  (0x1e1, "61.307.304 e6.304 e6.304 1e5 - 67.30c 67.30c 6b.30c 6b.30c 6f.328 6f.328 6f.328.304"),
  (0x1ed, "6f.328.304 292.30c 292.30c 6a.30c 64.7a 64.7a 64.7a 67.301 67.301 195 1bf 6e.300"),
  (0x1f9, "6e.300 61.30a.301 61.30a.301 e6.301 e6.301 f8.301 f8.301 61.30f 61.30f 61.311 61.311"),
  (0x204, "65.30f 65.30f 65.311 65.311 69.30f 69.30f 69.311 69.311 6f.30f 6f.30f 6f.311 6f.311"),
  (0x210, "72.30f 72.30f 72.311 72.311 75.30f 75.30f 75.311 75.311 73.326 73.326 74.326 74.326"),
  (0x21c, "21d - 68.30c 68.30c 19e - 223 - 225 - 61.307 61.307 65.327 65.327 6f.308.304"),
  (0x22b, "6f.308.304 6f.303.304 6f.303.304 6f.307 6f.307 6f.307.304 6f.307.304 79.304 79.304"),
  (0x23a, "2c65 23c - 19a 2c66 - - 242 - 180 289 28c 247 - 249 - 24b - 24d - 24f"),
  (0x2b0, "68 266 6a 72 279 27b 281 77 79"),
  (0x2d8, "20.306 20.307 20.30a 20.328 20.303 20.30b - - 263 6c 73 78 295"),
  (0x340, "300 301 - 313 308.301 3b9"),
  (0x370, "371 - 373 - 2b9 - 377 - - - 20.3b9 - - - 3b 3f3"),
  (0x384, "20.301 20.308.301 3b1.301 b7 3b5.301 3b7.301 3b9.301 - 3bf.301 - 3c5.301 3c9.301"),
  (0x390, "3b9.308.301 3b1 3b2 3b3 3b4 3b5 3b6 3b7 3b8 3b9 3ba 3bb 3bc 3bd 3be 3bf 3c0 3c1 - 3c3"),
  (0x3a4, "3c4 3c5 3c6 3c7 3c8 3c9 3b9.308 3c5.308 3b1.301 3b5.301 3b7.301 3b9.301 3c5.308.301"),
  (0x3c2, "3c3"),
  (0x3ca, "3b9.308 3c5.308 3bf.301 3c5.301 3c9.301 3d7 3b2 3b8 3c5 3c5.301 3c5.308 3c6 3c0 - 3d9"),
  (0x3da, "3db - 3dd - 3df - 3e1 - 3e3 - 3e5 - 3e7 - 3e9 - 3eb - 3ed - 3ef - 3ba 3c1 3c3 - 3b8"),
  (0x3f5, "3b5 - 3f8 - 3c3 3fb - - 37b 37c 37d 435.300 435.308 452 433.301 454 455 456 456.308"),
  (0x408, "458 459 45a 45b 43a.301 438.300 443.306 45f 430 431 432 433 434 435 436 437 438"),
  (0x419, "438.306 43a 43b 43c 43d 43e 43f 440 441 442 443 444 445 446 447 448 449 44a 44b 44c"),
  (0x42d, "44d 44e 44f"), (0x439, "438.306"), (0x450, "435.300 435.308 - 433.301 - - - 456.308"),
  (0x45c, "43a.301 438.300 443.306 - 461 - 463 - 465 - 467 - 469 - 46b - 46d - 46f - 471 - 473"),
  (0x474, "475 - 475.30f 475.30f 479 - 47b - 47d - 47f - 481"),
  (0x48a, "48b - 48d - 48f - 491 - 493 - 495 - 497 - 499 - 49b - 49d - 49f - 4a1 - 4a3 - 4a5"),
  (0x4a6, "4a7 - 4a9 - 4ab - 4ad - 4af - 4b1 - 4b3 - 4b5 - 4b7 - 4b9 - 4bb - 4bd - 4bf - 4cf"),
  (0x4c1, "436.306 436.306 4c4 - 4c6 - 4c8 - 4ca - 4cc - 4ce - - 430.306 430.306 430.308 430.308"),
  (0x4d4, "4d5 - 435.306 435.306 4d9 - 4d9.308 4d9.308 436.308 436.308 437.308 437.308 4e1"),
  (0x4e2, "438.304 438.304 438.308 438.308 43e.308 43e.308 4e9 - 4e9.308 4e9.308 44d.308 44d.308"),
  (0x4ee, "443.304 443.304 443.308 443.308 443.30b 443.30b 447.308 447.308 4f7 - 44b.308 44b.308"),
  (0x4fa, "4fb - 4fd - 4ff - 501 - 503 - 505 - 507 - 509 - 50b - 50d - 50f - 511 - 513 - 515"),
  (0x516, "517 - 519 - 51b - 51d - 51f - 521 - 523 - 525 - 527 - 529 - 52b - 52d - 52f - - 561"),
  (0x532, "562 563 564 565 566 567 568 569 56a 56b 56c 56d 56e 56f 570 571 572 573 574 575 576"),
  (0x547, "577 578 579 57a 57b 57c 57d 57e 57f 580 581 582 583 584 585 586"), (0x587, "565.582"),
  (0x622, "627.653 627.654 648.654 627.655 64a.654"), (0x675, "627.674 648.674 6c7.674 64a.674"),
  (0x6c0, "6d5.654 - 6c1.654"), (0x6d3, "6d2.654"), (0x929, "928.93c"),
  (0x931, "930.93c - - 933.93c"),
  (0x958, "915.93c 916.93c 917.93c 91c.93c 921.93c 922.93c 92b.93c 92f.93c"),
  (0x9cb, "9c7.9be 9c7.9d7"), (0x9dc, "9a1.9bc 9a2.9bc - 9af.9bc"),
  (0xa33, "a32.a3c - - a38.a3c"), (0xa59, "a16.a3c a17.a3c a1c.a3c - - a2b.a3c"),
  (0xb48, "b47.b56 - - b47.b3e b47.b57"), (0xb5c, "b21.b3c b22.b3c"), (0xb94, "b92.bd7"),
  (0xbca, "bc6.bbe bc7.bbe bc6.bd7"), (0xc48, "c46.c56"), (0xcc0, "cbf.cd5"),
  (0xcc7, "cc6.cd5 cc6.cd6 - cc6.cc2 cc6.cc2.cd5"), (0xd4a, "d46.d3e d47.d3e d46.d57"),
  (0xdda, "dd9.dca - dd9.dcf dd9.dcf.dca dd9.ddf"), (0xe33, "e4d.e32"), (0xeb3, "ecd.eb2"),
  (0xedc, "eab.e99 eab.ea1"), (0xf0c, "f0b"), (0xf43, "f42.fb7"), (0xf4d, "f4c.fb7"),
  (0xf52, "f51.fb7"), (0xf57, "f56.fb7"), (0xf5c, "f5b.fb7"), (0xf69, "f40.fb5"),
  (0xf73, "f71.f72 - f71.f74 fb2.f80 fb2.f71.f80 fb3.f80 fb3.f71.f80"), (0xf81, "f71.f80"),
  (0xf93, "f92.fb7"), (0xf9d, "f9c.fb7"), (0xfa2, "fa1.fb7"), (0xfa7, "fa6.fb7"),
  (0xfac, "fab.fb7"), (0xfb9, "f90.fb5"), (0x1026, "1025.102e"),
  (0x10a0, "2d00 2d01 2d02 2d03 2d04 2d05 2d06 2d07 2d08 2d09 2d0a 2d0b 2d0c 2d0d 2d0e 2d0f 2d10"),
  (0x10b1, "2d11 2d12 2d13 2d14 2d15 2d16 2d17 2d18 2d19 2d1a 2d1b 2d1c 2d1d 2d1e 2d1f 2d20 2d21"),
  (0x10c2, "2d22 2d23 2d24 2d25 - 2d27"), (0x10cd, "2d2d"),
  (0x13a0, "ab70 ab71 ab72 ab73 ab74 ab75 ab76 ab77 ab78 ab79 ab7a ab7b ab7c ab7d ab7e ab7f ab80"),
  (0x13b1, "ab81 ab82 ab83 ab84 ab85 ab86 ab87 ab88 ab89 ab8a ab8b ab8c ab8d ab8e ab8f ab90 ab91"),
  (0x13c2, "ab92 ab93 ab94 ab95 ab96 ab97 ab98 ab99 ab9a ab9b ab9c ab9d ab9e ab9f aba0 aba1 aba2"),
  (0x13d3, "aba3 aba4 aba5 aba6 aba7 aba8 aba9 abaa abab abac abad abae abaf abb0 abb1 abb2 abb3"),
  (0x13e4, "abb4 abb5 abb6 abb7 abb8 abb9 abba abbb abbc abbd abbe abbf 13f8 13f9 13fa 13fb 13fc"),
  (0x13f5, "13fd"),
  (0x1c90, "10d0 10d1 10d2 10d3 10d4 10d5 10d6 10d7 10d8 10d9 10da 10db 10dc 10dd 10de 10df 10e0"),
  (0x1ca1, "10e1 10e2 10e3 10e4 10e5 10e6 10e7 10e8 10e9 10ea 10eb 10ec 10ed 10ee 10ef 10f0 10f1"),
  (0x1cb2, "10f2 10f3 10f4 10f5 10f6 10f7 10f8 10f9 10fa - - 10fd 10fe 10ff"),
  (0x1e00, "61.325 61.325 62.307 62.307 62.323 62.323 62.331 62.331 63.327.301 63.327.301 64.307"),
  (0x1e0b, "64.307 64.323 64.323 64.331 64.331 64.327 64.327 64.32d 64.32d 65.304.300 65.304.300"),
  (0x1e16, "65.304.301 65.304.301 65.32d 65.32d 65.330 65.330 65.327.306 65.327.306 66.307 66.307"),
  (0x1e20, "67.304 67.304 68.307 68.307 68.323 68.323 68.308 68.308 68.327 68.327 68.32e 68.32e"),
  (0x1e2c, "69.330 69.330 69.308.301 69.308.301 6b.301 6b.301 6b.323 6b.323 6b.331 6b.331 6c.323"),
  (0x1e37, "6c.323 6c.323.304 6c.323.304 6c.331 6c.331 6c.32d 6c.32d 6d.301 6d.301 6d.307 6d.307"),
  (0x1e42, "6d.323 6d.323 6e.307 6e.307 6e.323 6e.323 6e.331 6e.331 6e.32d 6e.32d 6f.303.301"),
  (0x1e4d, "6f.303.301 6f.303.308 6f.303.308 6f.304.300 6f.304.300 6f.304.301 6f.304.301 70.301"),
  (0x1e55, "70.301 70.307 70.307 72.307 72.307 72.323 72.323 72.323.304 72.323.304 72.331 72.331"),
  (0x1e60, "73.307 73.307 73.323 73.323 73.301.307 73.301.307 73.30c.307 73.30c.307 73.323.307"),
  (0x1e69, "73.323.307 74.307 74.307 74.323 74.323 74.331 74.331 74.32d 74.32d 75.324 75.324"),
  (0x1e74, "75.330 75.330 75.32d 75.32d 75.303.301 75.303.301 75.304.308 75.304.308 76.303 76.303"),
  (0x1e7e, "76.323 76.323 77.300 77.300 77.301 77.301 77.308 77.308 77.307 77.307 77.323 77.323"),
  (0x1e8a, "78.307 78.307 78.308 78.308 79.307 79.307 7a.302 7a.302 7a.323 7a.323 7a.331 7a.331"),
  (0x1e96, "68.331 74.308 77.30a 79.30a 61.2be 73.307 - - 73.73 - 61.323 61.323 61.309 61.309"),
  (0x1ea4, "61.302.301 61.302.301 61.302.300 61.302.300 61.302.309 61.302.309 61.302.303"),
  (0x1eab, "61.302.303 61.323.302 61.323.302 61.306.301 61.306.301 61.306.300 61.306.300"),
  (0x1eb2, "61.306.309 61.306.309 61.306.303 61.306.303 61.323.306 61.323.306 65.323 65.323"),
  (0x1eba, "65.309 65.309 65.303 65.303 65.302.301 65.302.301 65.302.300 65.302.300 65.302.309"),
  (0x1ec3, "65.302.309 65.302.303 65.302.303 65.323.302 65.323.302 69.309 69.309 69.323 69.323"),
  (0x1ecc, "6f.323 6f.323 6f.309 6f.309 6f.302.301 6f.302.301 6f.302.300 6f.302.300 6f.302.309"),
  (0x1ed5, "6f.302.309 6f.302.303 6f.302.303 6f.323.302 6f.323.302 6f.31b.301 6f.31b.301"),
  (0x1edc, "6f.31b.300 6f.31b.300 6f.31b.309 6f.31b.309 6f.31b.303 6f.31b.303 6f.31b.323"),
  (0x1ee3, "6f.31b.323 75.323 75.323 75.309 75.309 75.31b.301 75.31b.301 75.31b.300 75.31b.300"),
  (0x1eec, "75.31b.309 75.31b.309 75.31b.303 75.31b.303 75.31b.323 75.31b.323 79.300 79.300"),
  (0x1ef4, "79.323 79.323 79.309 79.309 79.303 79.303 1efb - 1efd - 1eff - 3b1.313 3b1.314"),
  (0x1f02, "3b1.313.300 3b1.314.300 3b1.313.301 3b1.314.301 3b1.313.342 3b1.314.342 3b1.313"),
  (0x1f09, "3b1.314 3b1.313.300 3b1.314.300 3b1.313.301 3b1.314.301 3b1.313.342 3b1.314.342"),
  (0x1f10, "3b5.313 3b5.314 3b5.313.300 3b5.314.300 3b5.313.301 3b5.314.301 - - 3b5.313 3b5.314"),
  (0x1f1a, "3b5.313.300 3b5.314.300 3b5.313.301 3b5.314.301 - - 3b7.313 3b7.314 3b7.313.300"),
  (0x1f23, "3b7.314.300 3b7.313.301 3b7.314.301 3b7.313.342 3b7.314.342 3b7.313 3b7.314"),
  (0x1f2a, "3b7.313.300 3b7.314.300 3b7.313.301 3b7.314.301 3b7.313.342 3b7.314.342 3b9.313"),
  (0x1f31, "3b9.314 3b9.313.300 3b9.314.300 3b9.313.301 3b9.314.301 3b9.313.342 3b9.314.342"),
  (0x1f38, "3b9.313 3b9.314 3b9.313.300 3b9.314.300 3b9.313.301 3b9.314.301 3b9.313.342"),
  (0x1f3f, "3b9.314.342 3bf.313 3bf.314 3bf.313.300 3bf.314.300 3bf.313.301 3bf.314.301"),
  (0x1f48, "3bf.313 3bf.314 3bf.313.300 3bf.314.300 3bf.313.301 3bf.314.301 - - 3c5.313 3c5.314"),
  (0x1f52, "3c5.313.300 3c5.314.300 3c5.313.301 3c5.314.301 3c5.313.342 3c5.314.342 - 3c5.314"),
  (0x1f5b, "3c5.314.300 - 3c5.314.301 - 3c5.314.342 3c9.313 3c9.314 3c9.313.300 3c9.314.300"),
  (0x1f64, "3c9.313.301 3c9.314.301 3c9.313.342 3c9.314.342 3c9.313 3c9.314 3c9.313.300"),
  (0x1f6b, "3c9.314.300 3c9.313.301 3c9.314.301 3c9.313.342 3c9.314.342 3b1.300 3b1.301 3b5.300"),
  (0x1f73, "3b5.301 3b7.300 3b7.301 3b9.300 3b9.301 3bf.300 3bf.301 3c5.300 3c5.301 3c9.300"),
  (0x1f7d, "3c9.301 - - 3b1.313.3b9 3b1.314.3b9 3b1.313.300.3b9 3b1.314.300.3b9 3b1.313.301.3b9"),
  (0x1f85, "3b1.314.301.3b9 3b1.313.342.3b9 3b1.314.342.3b9 3b1.313.3b9 3b1.314.3b9"),
  (0x1f8a, "3b1.313.300.3b9 3b1.314.300.3b9 3b1.313.301.3b9 3b1.314.301.3b9 3b1.313.342.3b9"),
  (0x1f8f, "3b1.314.342.3b9 3b7.313.3b9 3b7.314.3b9 3b7.313.300.3b9 3b7.314.300.3b9"),
  (0x1f94, "3b7.313.301.3b9 3b7.314.301.3b9 3b7.313.342.3b9 3b7.314.342.3b9 3b7.313.3b9"),
  (0x1f99, "3b7.314.3b9 3b7.313.300.3b9 3b7.314.300.3b9 3b7.313.301.3b9 3b7.314.301.3b9"),
  (0x1f9e, "3b7.313.342.3b9 3b7.314.342.3b9 3c9.313.3b9 3c9.314.3b9 3c9.313.300.3b9"),
  (0x1fa3, "3c9.314.300.3b9 3c9.313.301.3b9 3c9.314.301.3b9 3c9.313.342.3b9 3c9.314.342.3b9"),
  (0x1fa8, "3c9.313.3b9 3c9.314.3b9 3c9.313.300.3b9 3c9.314.300.3b9 3c9.313.301.3b9"),
  (0x1fad, "3c9.314.301.3b9 3c9.313.342.3b9 3c9.314.342.3b9 3b1.306 3b1.304 3b1.300.3b9 3b1.3b9"),
  (0x1fb4, "3b1.301.3b9 - 3b1.342 3b1.342.3b9 3b1.306 3b1.304 3b1.300 3b1.301 3b1.3b9 20.313 3b9"),
  (0x1fbf, "20.313 20.342 20.308.342 3b7.300.3b9 3b7.3b9 3b7.301.3b9 - 3b7.342 3b7.342.3b9"),
  (0x1fc8, "3b5.300 3b5.301 3b7.300 3b7.301 3b7.3b9 20.313.300 20.313.301 20.313.342 3b9.306"),
  (0x1fd1, "3b9.304 3b9.308.300 3b9.308.301 - - 3b9.342 3b9.308.342 3b9.306 3b9.304 3b9.300"),
  (0x1fdb, "3b9.301 - 20.314.300 20.314.301 20.314.342 3c5.306 3c5.304 3c5.308.300 3c5.308.301"),
  (0x1fe4, "3c1.313 3c1.314 3c5.342 3c5.308.342 3c5.306 3c5.304 3c5.300 3c5.301 3c1.314"),
  (0x1fed, "20.308.300 20.308.301 60 - - 3c9.300.3b9 3c9.3b9 3c9.301.3b9 - 3c9.342 3c9.342.3b9"),
  (0x1ff8, "3bf.300 3bf.301 3c9.300 3c9.301 3c9.3b9 20.301 20.314 - 20 20 20 20 20 20 20 20 20 20"),
  (0x200a, "20"), (0x2011, "2010"), (0x2017, "20.333"), (0x2024, "2e 2e.2e 2e.2e.2e"),
  (0x202f, "20 - - - 2032.2032 2032.2032.2032 - 2035.2035 2035.2035.2035"),
  (0x203c, "21.21 - 20.305"), (0x2047, "3f.3f 3f.21 21.3f"), (0x2057, "2032.2032.2032.2032"),
  (0x205f, "20"),
  (0x2070, "30 69 - - 34 35 36 37 38 39 2b 2212 3d 28 29 6e 30 31 32 33 34 35 36 37 38 39 2b 2212"),
  (0x208c, "3d 28 29"), (0x20a8, "72.73"),
  (0x2100, "61.2f.63 61.2f.73 63 b0.63 - 63.2f.6f 63.2f.75 25b - b0.66 67 68 68 68 68 127 69 69"),
  (0x2112, "6c 6c - 6e 6e.6f - - 70 71 72 72 72 - - 73.6d 74.65.6c 74.6d - 7a - 3c9 - 7a - 6b"),
  (0x212b, "61.30a 62 63 - 65 65 66 214e 6d 6f 5d0 5d1 5d2 5d3 69 - - - 3b3 3b3 3c0 2211"),
  (0x2145, "64 64 65 69 6a"),
  (0x2153, "31.2044.33 32.2044.33 31.2044.35 32.2044.35 33.2044.35 34.2044.35 31.2044.36"),
  (0x215a, "35.2044.36 31.2044.38 33.2044.38 35.2044.38 37.2044.38 31.2044 69 69.69 69.69.69"),
  (0x2163, "69.76 76 76.69 76.69.69 76.69.69.69 69.78 78 78.69 78.69.69 6c 63 64 6d 69 69.69"),
  (0x2172, "69.69.69 69.76 76 76.69 76.69.69 76.69.69.69 69.78 78 78.69 78.69.69 6c 63 64 6d"),
  (0x2183, "2184"), (0x219a, "2190.338 2192.338"), (0x21ae, "2194.338"),
  (0x21cd, "21d0.338 21d4.338 21d2.338"), (0x2204, "2203.338"), (0x2209, "2208.338 - - 220b.338"),
  (0x2224, "2223.338 - 2225.338"),
  (0x222c, "222b.222b 222b.222b.222b - 222e.222e 222e.222e.222e"),
  (0x2241, "223c.338 - - 2243.338 - - 2245.338 - 2248.338"), (0x2260, "3d.338 - 2261.338"),
  (0x226d, "224d.338 3c.338 3e.338 2264.338 2265.338 - - 2272.338 2273.338 - - 2276.338 2277.338"),
  (0x2280, "227a.338 227b.338 - - 2282.338 2283.338 - - 2286.338 2287.338"),
  (0x22ac, "22a2.338 22a8.338 22a9.338 22ab.338"),
  (0x22e0, "227c.338 227d.338 2291.338 2292.338"),
  (0x22ea, "22b2.338 22b3.338 22b4.338 22b5.338"), (0x2329, "3008 3009"),
  (0x2460, "31 32 33 34 35 36 37 38 39 31.30 31.31 31.32 31.33 31.34 31.35 31.36 31.37 31.38"),
  (0x2472, "31.39 32.30 28.31.29 28.32.29 28.33.29 28.34.29 28.35.29 28.36.29 28.37.29 28.38.29"),
  (0x247c, "28.39.29 28.31.30.29 28.31.31.29 28.31.32.29 28.31.33.29 28.31.34.29 28.31.35.29"),
  (0x2483, "28.31.36.29 28.31.37.29 28.31.38.29 28.31.39.29 28.32.30.29 31.2e 32.2e 33.2e 34.2e"),
  (0x248c, "35.2e 36.2e 37.2e 38.2e 39.2e 31.30.2e 31.31.2e 31.32.2e 31.33.2e 31.34.2e 31.35.2e"),
  (0x2497, "31.36.2e 31.37.2e 31.38.2e 31.39.2e 32.30.2e 28.61.29 28.62.29 28.63.29 28.64.29"),
  (0x24a0, "28.65.29 28.66.29 28.67.29 28.68.29 28.69.29 28.6a.29 28.6b.29 28.6c.29 28.6d.29"),
  (0x24a9, "28.6e.29 28.6f.29 28.70.29 28.71.29 28.72.29 28.73.29 28.74.29 28.75.29 28.76.29"),
  (0x24b2, "28.77.29 28.78.29 28.79.29 28.7a.29 61 62 63 64 65 66 67 68 69 6a 6b 6c 6d 6e 6f 70"),
  (0x24c6, "71 72 73 74 75 76 77 78 79 7a 61 62 63 64 65 66 67 68 69 6a 6b 6c 6d 6e 6f 70 71 72"),
  (0x24e2, "73 74 75 76 77 78 79 7a 30"), (0x2a0c, "222b.222b.222b.222b"),
  (0x2a74, "3a.3a.3d 3d.3d 3d.3d.3d"), (0x2adc, "2add.338"),
  (0x2c00, "2c30 2c31 2c32 2c33 2c34 2c35 2c36 2c37 2c38 2c39 2c3a 2c3b 2c3c 2c3d 2c3e 2c3f 2c40"),
  (0x2c11, "2c41 2c42 2c43 2c44 2c45 2c46 2c47 2c48 2c49 2c4a 2c4b 2c4c 2c4d 2c4e 2c4f 2c50 2c51"),
  (0x2c22, "2c52 2c53 2c54 2c55 2c56 2c57 2c58 2c59 2c5a 2c5b 2c5c 2c5d 2c5e 2c5f"),
  (0x2c60, "2c61 - 26b 1d7d 27d - - 2c68 - 2c6a - 2c6c - 251 271 250 252 - 2c73 - - 2c76"),
  (0x2c7e, "23f 240 2c81 - 2c83 - 2c85 - 2c87 - 2c89 - 2c8b - 2c8d - 2c8f - 2c91 - 2c93 - 2c95"),
  (0x2c96, "2c97 - 2c99 - 2c9b - 2c9d - 2c9f - 2ca1 - 2ca3 - 2ca5 - 2ca7 - 2ca9 - 2cab - 2cad"),
  (0x2cae, "2caf - 2cb1 - 2cb3 - 2cb5 - 2cb7 - 2cb9 - 2cbb - 2cbd - 2cbf - 2cc1 - 2cc3 - 2cc5"),
  (0x2cc6, "2cc7 - 2cc9 - 2ccb - 2ccd - 2ccf - 2cd1 - 2cd3 - 2cd5 - 2cd7 - 2cd9 - 2cdb - 2cdd"),
  (0x2cde, "2cdf - 2ce1 - 2ce3"), (0x2ceb, "2cec - 2cee"), (0x2cf2, "2cf3"), (0x2e9f, "6bcd"),
  (0x2ef3, "9f9f"),
  (0x2f00, "4e00 4e28 4e36 4e3f 4e59 4e85 4e8c 4ea0 4eba 513f 5165 516b 5182 5196 51ab 51e0 51f5"),
  (0x2f11, "5200 529b 52f9 5315 531a 5338 5341 535c 5369 5382 53b6 53c8 53e3 56d7 571f 58eb 5902"),
  (0x2f22, "590a 5915 5927 5973 5b50 5b80 5bf8 5c0f 5c22 5c38 5c6e 5c71 5ddb 5de5 5df1 5dfe 5e72"),
  (0x2f33, "5e7a 5e7f 5ef4 5efe 5f0b 5f13 5f50 5f61 5f73 5fc3 6208 6236 624b 652f 6534 6587 6597"),
  (0x2f44, "65a4 65b9 65e0 65e5 66f0 6708 6728 6b20 6b62 6b79 6bb3 6bcb 6bd4 6bdb 6c0f 6c14 6c34"),
  (0x2f55, "706b 722a 7236 723b 723f 7247 7259 725b 72ac 7384 7389 74dc 74e6 7518 751f 7528 7530"),
  (0x2f66, "758b 7592 7676 767d 76ae 76bf 76ee 77db 77e2 77f3 793a 79b8 79be 7a74 7acb 7af9 7c73"),
  (0x2f77, "7cf8 7f36 7f51 7f8a 7fbd 8001 800c 8012 8033 807f 8089 81e3 81ea 81f3 81fc 820c 821b"),
  (0x2f88, "821f 826e 8272 8278 864d 866b 8840 884c 8863 897e 898b 89d2 8a00 8c37 8c46 8c55 8c78"),
  (0x2f99, "8c9d 8d64 8d70 8db3 8eab 8eca 8f9b 8fb0 8fb5 9091 9149 91c6 91cc 91d1 9577 9580 961c"),
  (0x2faa, "96b6 96b9 96e8 9751 975e 9762 9769 97cb 97ed 97f3 9801 98a8 98db 98df 9996 9999 99ac"),
  (0x2fbb, "9aa8 9ad8 9adf 9b25 9b2f 9b32 9b3c 9b5a 9ce5 9e75 9e7f 9ea5 9ebb 9ec3 9ecd 9ed1 9ef9"),
  (0x2fcc, "9efd 9f0e 9f13 9f20 9f3b 9f4a 9f52 9f8d 9f9c 9fa0"), (0x3000, "20"),
  (0x3036, "3012 - 5341 5344 5345"),
  (0x304c, "304b.3099 - 304d.3099 - 304f.3099 - 3051.3099 - 3053.3099 - 3055.3099 - 3057.3099"),
  (0x305a, "3059.3099 - 305b.3099 - 305d.3099 - 305f.3099 - 3061.3099 - - 3064.3099 - 3066.3099"),
  (0x3069, "3068.3099"),
  (0x3070, "306f.3099 306f.309a - 3072.3099 3072.309a - 3075.3099 3075.309a - 3078.3099 3078.309a"),
  (0x307c, "307b.3099 307b.309a"), (0x3094, "3046.3099"),
  (0x309b, "20.3099 20.309a - 309d.3099 3088.308a"),
  (0x30ac, "30ab.3099 - 30ad.3099 - 30af.3099 - 30b1.3099 - 30b3.3099 - 30b5.3099 - 30b7.3099"),
  (0x30ba, "30b9.3099 - 30bb.3099 - 30bd.3099 - 30bf.3099 - 30c1.3099 - - 30c4.3099 - 30c6.3099"),
  (0x30c9, "30c8.3099"),
  (0x30d0, "30cf.3099 30cf.309a - 30d2.3099 30d2.309a - 30d5.3099 30d5.309a - 30d8.3099 30d8.309a"),
  (0x30dc, "30db.3099 30db.309a"),
  (0x30f4, "30a6.3099 - - 30ef.3099 30f0.3099 30f1.3099 30f2.3099 - - - 30fd.3099 30b3.30c8"),
  (0x3131, "1100 1101 11aa 1102 11ac 11ad 1103 1104 1105 11b0 11b1 11b2 11b3 11b4 11b5 111a 1106"),
  (0x3142, "1107 1108 1121 1109 110a 110b 110c 110d 110e 110f 1110 1111 1112 1161 1162 1163 1164"),
  (0x3153, "1165 1166 1167 1168 1169 116a 116b 116c 116d 116e 116f 1170 1171 1172 1173 1174 1175"),
  (0x3164, "1160 1114 1115 11c7 11c8 11cc 11ce 11d3 11d7 11d9 111c 11dd 11df 111d 111e 1120 1122"),
  (0x3175, "1123 1127 1129 112b 112c 112d 112e 112f 1132 1136 1140 1147 114c 11f1 11f2 1157 1158"),
  (0x3186, "1159 1184 1185 1188 1191 1192 1194 119e 11a1 - - - 4e00 4e8c 4e09 56db 4e0a 4e2d 4e0b"),
  (0x3199, "7532 4e59 4e19 4e01 5929 5730 4eba"),
  (0x3200, "28.1100.29 28.1102.29 28.1103.29 28.1105.29 28.1106.29 28.1107.29 28.1109.29"),
  (0x3207, "28.110b.29 28.110c.29 28.110e.29 28.110f.29 28.1110.29 28.1111.29 28.1112.29"),
  (0x320e, "28.1100.1161.29 28.1102.1161.29 28.1103.1161.29 28.1105.1161.29 28.1106.1161.29"),
  (0x3213, "28.1107.1161.29 28.1109.1161.29 28.110b.1161.29 28.110c.1161.29 28.110e.1161.29"),
  (0x3218, "28.110f.1161.29 28.1110.1161.29 28.1111.1161.29 28.1112.1161.29 28.110c.116e.29"),
  (0x3220, "28.4e00.29 28.4e8c.29 28.4e09.29 28.56db.29 28.4e94.29 28.516d.29 28.4e03.29"),
  (0x3227, "28.516b.29 28.4e5d.29 28.5341.29 28.6708.29 28.706b.29 28.6c34.29 28.6728.29"),
  (0x322e, "28.91d1.29 28.571f.29 28.65e5.29 28.682a.29 28.6709.29 28.793e.29 28.540d.29"),
  (0x3235, "28.7279.29 28.8ca1.29 28.795d.29 28.52b4.29 28.4ee3.29 28.547c.29 28.5b66.29"),
  (0x323c, "28.76e3.29 28.4f01.29 28.8cc7.29 28.5354.29 28.796d.29 28.4f11.29 28.81ea.29"),
  (0x3243, "28.81f3.29"),
  (0x3251, "32.31 32.32 32.33 32.34 32.35 32.36 32.37 32.38 32.39 33.30 33.31 33.32 33.33 33.34"),
  (0x325f, "33.35 1100 1102 1103 1105 1106 1107 1109 110b 110c 110e 110f 1110 1111 1112 1100.1161"),
  (0x326f, "1102.1161 1103.1161 1105.1161 1106.1161 1107.1161 1109.1161 110b.1161 110c.1161"),
  (0x3277, "110e.1161 110f.1161 1110.1161 1111.1161 1112.1161"),
  (0x3280, "4e00 4e8c 4e09 56db 4e94 516d 4e03 516b 4e5d 5341 6708 706b 6c34 6728 91d1 571f 65e5"),
  (0x3291, "682a 6709 793e 540d 7279 8ca1 795d 52b4 79d8 7537 5973 9069 512a 5370 6ce8 9805 4f11"),
  (0x32a2, "5199 6b63 4e0a 4e2d 4e0b 5de6 53f3 533b 5b97 5b66 76e3 4f01 8cc7 5354 591c 33.36"),
  (0x32b2, "33.37 33.38 33.39 34.30 34.31 34.32 34.33 34.34 34.35 34.36 34.37 34.38 34.39 35.30"),
  (0x32c0, "31.6708 32.6708 33.6708 34.6708 35.6708 36.6708 37.6708 38.6708 39.6708 31.30.6708"),
  (0x32ca, "31.31.6708 31.32.6708"),
  (0x32d0, "30a2 30a4 30a6 30a8 30aa 30ab 30ad 30af 30b1 30b3 30b5 30b7 30b9 30bb 30bd 30bf 30c1"),
  (0x32e1, "30c4 30c6 30c8 30ca 30cb 30cc 30cd 30ce 30cf 30d2 30d5 30d8 30db 30de 30df 30e0 30e1"),
  (0x32f2, "30e2 30e4 30e6 30e8 30e9 30ea 30eb 30ec 30ed 30ef 30f0 30f1 30f2"),
  (0x3300, "30a2.30cf.309a.30fc.30c8 30a2.30eb.30d5.30a1 30a2.30f3.30d8.309a.30a2 30a2.30fc.30eb"),
  (0x3304, "30a4.30cb.30f3.30af.3099 30a4.30f3.30c1 30a6.30a9.30f3 30a8.30b9.30af.30fc.30c8.3099"),
  (0x3308, "30a8.30fc.30ab.30fc 30aa.30f3.30b9 30aa.30fc.30e0 30ab.30a4.30ea 30ab.30e9.30c3.30c8"),
  (0x330d, "30ab.30ed.30ea.30fc 30ab.3099.30ed.30f3 30ab.3099.30f3.30de 30ad.3099.30ab.3099"),
  (0x3311, "30ad.3099.30cb.30fc 30ad.30e5.30ea.30fc 30ad.3099.30eb.30bf.3099.30fc 30ad.30ed"),
  (0x3315, "30ad.30ed.30af.3099.30e9.30e0 30ad.30ed.30e1.30fc.30c8.30eb 30ad.30ed.30ef.30c3.30c8"),
  (0x3318, "30af.3099.30e9.30e0 30af.3099.30e9.30e0.30c8.30f3 30af.30eb.30bb.3099.30a4.30ed"),
  (0x331b, "30af.30ed.30fc.30cd 30b1.30fc.30b9 30b3.30eb.30ca 30b3.30fc.30db.309a"),
  (0x331f, "30b5.30a4.30af.30eb 30b5.30f3.30c1.30fc.30e0 30b7.30ea.30f3.30af.3099 30bb.30f3.30c1"),
  (0x3323, "30bb.30f3.30c8 30bf.3099.30fc.30b9 30c6.3099.30b7 30c8.3099.30eb 30c8.30f3 30ca.30ce"),
  (0x3329, "30ce.30c3.30c8 30cf.30a4.30c4 30cf.309a.30fc.30bb.30f3.30c8 30cf.309a.30fc.30c4"),
  (0x332d, "30cf.3099.30fc.30ec.30eb 30d2.309a.30a2.30b9.30c8.30eb 30d2.309a.30af.30eb"),
  (0x3330, "30d2.309a.30b3 30d2.3099.30eb 30d5.30a1.30e9.30c3.30c8.3099 30d5.30a3.30fc.30c8"),
  (0x3334, "30d5.3099.30c3.30b7.30a7.30eb 30d5.30e9.30f3 30d8.30af.30bf.30fc.30eb 30d8.309a.30bd"),
  (0x3338, "30d8.309a.30cb.30d2 30d8.30eb.30c4 30d8.309a.30f3.30b9 30d8.309a.30fc.30b7.3099"),
  (0x333c, "30d8.3099.30fc.30bf 30db.309a.30a4.30f3.30c8 30db.3099.30eb.30c8 30db.30f3"),
  (0x3340, "30db.309a.30f3.30c8.3099 30db.30fc.30eb 30db.30fc.30f3 30de.30a4.30af.30ed"),
  (0x3344, "30de.30a4.30eb 30de.30c3.30cf 30de.30eb.30af 30de.30f3.30b7.30e7.30f3"),
  (0x3348, "30df.30af.30ed.30f3 30df.30ea 30df.30ea.30cf.3099.30fc.30eb 30e1.30ab.3099"),
  (0x334c, "30e1.30ab.3099.30c8.30f3 30e1.30fc.30c8.30eb 30e4.30fc.30c8.3099 30e4.30fc.30eb"),
  (0x3350, "30e6.30a2.30f3 30ea.30c3.30c8.30eb 30ea.30e9 30eb.30d2.309a.30fc"),
  (0x3354, "30eb.30fc.30d5.3099.30eb 30ec.30e0 30ec.30f3.30c8.30b1.3099.30f3 30ef.30c3.30c8"),
  (0x3358, "30.70b9 31.70b9 32.70b9 33.70b9 34.70b9 35.70b9 36.70b9 37.70b9 38.70b9 39.70b9"),
  (0x3362, "31.30.70b9 31.31.70b9 31.32.70b9 31.33.70b9 31.34.70b9 31.35.70b9 31.36.70b9"),
  (0x3369, "31.37.70b9 31.38.70b9 31.39.70b9 32.30.70b9 32.31.70b9 32.32.70b9 32.33.70b9"),
  (0x3370, "32.34.70b9 68.70.61 64.61 61.75 62.61.72 6f.76 70.63"),
  (0x337b, "5e73.6210 662d.548c 5927.6b63 660e.6cbb 682a.5f0f.4f1a.793e 70.61 6e.61 3bc.61 6d.61"),
  (0x3384, "6b.61 6b.62 6d.62 67.62 63.61.6c 6b.63.61.6c 70.66 6e.66 3bc.66 3bc.67 6d.67 6b.67"),
  (0x3390, "68.7a 6b.68.7a 6d.68.7a 67.68.7a 74.68.7a 3bc.6c 6d.6c 64.6c 6b.6c 66.6d 6e.6d 3bc.6d"),
  (0x339c, "6d.6d 63.6d 6b.6d 6d.6d.32 63.6d.32 6d.32 6b.6d.32 6d.6d.33 63.6d.33 6d.33 6b.6d.33"),
  (0x33a7, "6d.2215.73 6d.2215.73.32 70.61 6b.70.61 6d.70.61 67.70.61 72.61.64 72.61.64.2215.73"),
  (0x33af, "72.61.64.2215.73.32 70.73 6e.73 3bc.73 6d.73 70.76 6e.76 3bc.76 6d.76 6b.76 6d.76"),
  (0x33ba, "70.77 6e.77 3bc.77 6d.77 6b.77 6d.77 6b.3c9 6d.3c9 61.2e.6d.2e 62.71 63.63 63.64"),
  (0x33c6, "63.2215.6b.67 63.6f.2e 64.62 67.79 68.61 68.70 69.6e 6b.6b 6b.6d 6b.74 6c.6d 6c.6e"),
  (0x33d2, "6c.6f.67 6c.78 6d.62 6d.69.6c 6d.6f.6c 70.68 70.2e.6d.2e 70.70.6d 70.72 73.72 73.76"),
  (0x33dd, "77.62 - - 31.65e5 32.65e5 33.65e5 34.65e5 35.65e5 36.65e5 37.65e5 38.65e5 39.65e5"),
  (0x33e9, "31.30.65e5 31.31.65e5 31.32.65e5 31.33.65e5 31.34.65e5 31.35.65e5 31.36.65e5"),
  (0x33f0, "31.37.65e5 31.38.65e5 31.39.65e5 32.30.65e5 32.31.65e5 32.32.65e5 32.33.65e5"),
  (0x33f7, "32.34.65e5 32.35.65e5 32.36.65e5 32.37.65e5 32.38.65e5 32.39.65e5 33.30.65e5"),
  (0x33fe, "33.31.65e5"),
  (0xa640, "a641 - a643 - a645 - a647 - a649 - a64b - a64d - a64f - a651 - a653 - a655 - a657"),
  (0xa658, "a659 - a65b - a65d - a65f - a661 - a663 - a665 - a667 - a669 - a66b - a66d"),
  (0xa680, "a681 - a683 - a685 - a687 - a689 - a68b - a68d - a68f - a691 - a693 - a695 - a697"),
  (0xa698, "a699 - a69b"),
  (0xa722, "a723 - a725 - a727 - a729 - a72b - a72d - a72f - - - a733 - a735 - a737 - a739 - a73b"),
  (0xa73c, "a73d - a73f - a741 - a743 - a745 - a747 - a749 - a74b - a74d - a74f - a751 - a753"),
  (0xa754, "a755 - a757 - a759 - a75b - a75d - a75f - a761 - a763 - a765 - a767 - a769 - a76b"),
  (0xa76c, "a76d - a76f"), (0xa779, "a77a - a77c - 1d79 a77f - a781 - a783 - a785 - a787"),
  (0xa78b, "a78c - 265 - - a791 - a793 - - - a797 - a799 - a79b - a79d - a79f - a7a1 - a7a3"),
  (0xa7a4, "a7a5 - a7a7 - a7a9 - 266 25c 261 26c 26a - 29e 287 29d ab53 a7b5 - a7b7 - a7b9 - a7bb"),
  (0xa7bc, "a7bd - a7bf - a7c1 - a7c3 - a794 282 1d8e a7c8 - a7ca"), (0xa7d0, "a7d1"),
  (0xa7d6, "a7d7 - a7d9"), (0xa7f5, "a7f6"),
  (0xf900, "8c48 66f4 8eca 8cc8 6ed1 4e32 53e5 9f9c 9f9c 5951 91d1 5587 5948 61f6 7669 7f85 863f"),
  (0xf911, "87ba 88f8 908f 6a02 6d1b 70d9 73de 843d 916a 99f1 4e82 5375 6b04 721b 862d 9e1e 5d50"),
  (0xf922, "6feb 85cd 8964 62c9 81d8 881f 5eca 6717 6d6a 72fc 90ce 4f86 51b7 52de 64c4 6ad3 7210"),
  (0xf933, "76e7 8001 8606 865c 8def 9732 9b6f 9dfa 788c 797f 7da0 83c9 9304 9e7f 8ad6 58df 5f04"),
  (0xf944, "7c60 807e 7262 78ca 8cc2 96f7 58d8 5c62 6a13 6dda 6f0f 7d2f 7e37 964b 52d2 808b 51dc"),
  (0xf955, "51cc 7a1c 7dbe 83f1 9675 8b80 62cf 6a02 8afe 4e39 5be7 6012 7387 7570 5317 78fb 4fbf"),
  (0xf966, "5fa9 4e0d 6ccc 6578 7d22 53c3 585e 7701 8449 8aaa 6bba 8fb0 6c88 62fe 82e5 63a0 7565"),
  (0xf977, "4eae 5169 51c9 6881 7ce7 826f 8ad2 91cf 52f5 5442 5973 5eec 65c5 6ffe 792a 95ad 9a6a"),
  (0xf988, "9e97 9ece 529b 66c6 6b77 8f62 5e74 6190 6200 649a 6f23 7149 7489 79ca 7df4 806f 8f26"),
  (0xf999, "84ee 9023 934a 5217 52a3 54bd 70c8 88c2 8aaa 5ec9 5ff5 637b 6bae 7c3e 7375 4ee4 56f9"),
  (0xf9aa, "5be7 5dba 601c 73b2 7469 7f9a 8046 9234 96f6 9748 9818 4f8b 79ae 91b4 96b8 60e1 4e86"),
  (0xf9bb, "50da 5bee 5c3f 6599 6a02 71ce 7642 84fc 907c 9f8d 6688 962e 5289 677b 67f3 6d41 6e9c"),
  (0xf9cc, "7409 7559 786b 7d10 985e 516d 622e 9678 502b 5d19 6dea 8f2a 5f8b 6144 6817 7387 9686"),
  (0xf9dd, "5229 540f 5c65 6613 674e 68a8 6ce5 7406 75e2 7f79 88cf 88e1 91cc 96e2 533f 6eba 541d"),
  (0xf9ee, "71d0 7498 85fa 96a3 9c57 9e9f 6797 6dcb 81e8 7acb 7b20 7c92 72c0 7099 8b58 4ec0 8336"),
  (0xf9ff, "523a 5207 5ea6 62d3 7cd6 5b85 6d1e 66b4 8f3b 884c 964d 898b 5ed3 5140 55c0 - - 585a"),
  (0xfa12, "6674 - - 51de 732a 76ca 793c 795e 7965 798f 9756 7cbe 7fbd - 8612 - 8af8 - - 9038"),
  (0xfa26, "90fd - - - 98ef 98fc 9928 9db4 - - 4fae 50e7 514d 52c9 52e4 5351 559d 5606 5668 5840"),
  (0xfa3a, "58a8 5c64 5c6e 6094 6168 618e 61f2 654f 65e2 6691 6885 6d77 6e1a 6f22 716e 722b 7422"),
  (0xfa4b, "7891 793e 7949 7948 7950 7956 795d 798d 798e 7a40 7a81 7bc0 7df4 7e09 7e41 7f72 8005"),
  (0xfa5c, "81ed 8279 8279 8457 8910 8996 8b01 8b39 8cd3 8d08 8fb6 9038 96e3 97ff 983b"),
  (0xfb00, "66.66 66.69 66.6c 66.66.69 66.66.6c 73.74 73.74"),
  (0xfb13, "574.576 574.565 574.56b 57e.576 574.56d"),
  (0xfb1d, "5d9.5b4 - 5f2.5b7 5e2 5d0 5d3 5d4 5db 5dc 5dd 5e8 5ea 2b 5e9.5c1 5e9.5c2 5e9.5bc.5c1"),
  (0xfb2d, "5e9.5bc.5c2 5d0.5b7 5d0.5b8 5d0.5bc 5d1.5bc 5d2.5bc 5d3.5bc 5d4.5bc 5d5.5bc 5d6.5bc"),
  (0xfb38, "5d8.5bc 5d9.5bc 5da.5bc 5db.5bc 5dc.5bc - 5de.5bc - 5e0.5bc 5e1.5bc - 5e3.5bc 5e4.5bc"),
  (0xfb46, "5e6.5bc 5e7.5bc 5e8.5bc 5e9.5bc 5ea.5bc 5d5.5b9 5d1.5bf 5db.5bf 5e4.5bf 5d0.5dc 671"),
  (0xfb51, "671 67b 67b 67b 67b 67e 67e 67e 67e 680 680 680 680 67a 67a 67a 67a 67f 67f 67f 67f"),
  (0xfb66, "679 679 679 679 6a4 6a4 6a4 6a4 6a6 6a6 6a6 6a6 684 684 684 684 683 683 683 683 686"),
  (0xfb7b, "686 686 686 687 687 687 687 68d 68d 68c 68c 68e 68e 688 688 698 698 691 691 6a9 6a9"),
  (0xfb90, "6a9 6a9 6af 6af 6af 6af 6b3 6b3 6b3 6b3 6b1 6b1 6b1 6b1 6ba 6ba 6bb 6bb 6bb 6bb"),
  (0xfba4, "6d5.654 6d5.654 6c1 6c1 6c1 6c1 6be 6be 6be 6be 6d2 6d2 6d2.654 6d2.654"),
  (0xfbd3, "6ad 6ad 6ad 6ad 6c7 6c7 6c6 6c6 6c8 6c8 6c7.674 6cb 6cb 6c5 6c5 6c9 6c9 6d0 6d0 6d0"),
  (0xfbe7, "6d0 649 649 64a.654.627 64a.654.627 64a.654.6d5 64a.654.6d5 64a.654.648 64a.654.648"),
  (0xfbf0, "64a.654.6c7 64a.654.6c7 64a.654.6c6 64a.654.6c6 64a.654.6c8 64a.654.6c8 64a.654.6d0"),
  (0xfbf7, "64a.654.6d0 64a.654.6d0 64a.654.649 64a.654.649 64a.654.649 6cc 6cc 6cc 6cc"),
  (0xfc00, "64a.654.62c 64a.654.62d 64a.654.645 64a.654.649 64a.654.64a 628.62c 628.62d 628.62e"),
  (0xfc08, "628.645 628.649 628.64a 62a.62c 62a.62d 62a.62e 62a.645 62a.649 62a.64a 62b.62c"),
  (0xfc12, "62b.645 62b.649 62b.64a 62c.62d 62c.645 62d.62c 62d.645 62e.62c 62e.62d 62e.645"),
  (0xfc1c, "633.62c 633.62d 633.62e 633.645 635.62d 635.645 636.62c 636.62d 636.62e 636.645"),
  (0xfc26, "637.62d 637.645 638.645 639.62c 639.645 63a.62c 63a.645 641.62c 641.62d 641.62e"),
  (0xfc30, "641.645 641.649 641.64a 642.62d 642.645 642.649 642.64a 643.627 643.62c 643.62d"),
  (0xfc3a, "643.62e 643.644 643.645 643.649 643.64a 644.62c 644.62d 644.62e 644.645 644.649"),
  (0xfc44, "644.64a 645.62c 645.62d 645.62e 645.645 645.649 645.64a 646.62c 646.62d 646.62e"),
  (0xfc4e, "646.645 646.649 646.64a 647.62c 647.645 647.649 647.64a 64a.62c 64a.62d 64a.62e"),
  (0xfc58, "64a.645 64a.649 64a.64a 630.670 631.670 649.670 20.64c.651 20.64d.651 20.64e.651"),
  (0xfc61, "20.64f.651 20.650.651 20.651.670 64a.654.631 64a.654.632 64a.654.645 64a.654.646"),
  (0xfc68, "64a.654.649 64a.654.64a 628.631 628.632 628.645 628.646 628.649 628.64a 62a.631"),
  (0xfc71, "62a.632 62a.645 62a.646 62a.649 62a.64a 62b.631 62b.632 62b.645 62b.646 62b.649"),
  (0xfc7b, "62b.64a 641.649 641.64a 642.649 642.64a 643.627 643.644 643.645 643.649 643.64a"),
  (0xfc85, "644.645 644.649 644.64a 645.627 645.645 646.631 646.632 646.645 646.646 646.649"),
  (0xfc8f, "646.64a 649.670 64a.631 64a.632 64a.645 64a.646 64a.649 64a.64a 64a.654.62c"),
  (0xfc98, "64a.654.62d 64a.654.62e 64a.654.645 64a.654.647 628.62c 628.62d 628.62e 628.645"),
  (0xfca0, "628.647 62a.62c 62a.62d 62a.62e 62a.645 62a.647 62b.645 62c.62d 62c.645 62d.62c"),
  (0xfcaa, "62d.645 62e.62c 62e.645 633.62c 633.62d 633.62e 633.645 635.62d 635.62e 635.645"),
  (0xfcb4, "636.62c 636.62d 636.62e 636.645 637.62d 638.645 639.62c 639.645 63a.62c 63a.645"),
  (0xfcbe, "641.62c 641.62d 641.62e 641.645 642.62d 642.645 643.62c 643.62d 643.62e 643.644"),
  (0xfcc8, "643.645 644.62c 644.62d 644.62e 644.645 644.647 645.62c 645.62d 645.62e 645.645"),
  (0xfcd2, "646.62c 646.62d 646.62e 646.645 646.647 647.62c 647.645 647.670 64a.62c 64a.62d"),
  (0xfcdc, "64a.62e 64a.645 64a.647 64a.654.645 64a.654.647 628.645 628.647 62a.645 62a.647"),
  (0xfce5, "62b.645 62b.647 633.645 633.647 634.645 634.647 643.644 643.645 644.645 646.645"),
  (0xfcef, "646.647 64a.645 64a.647 640.64e.651 640.64f.651 640.650.651 637.649 637.64a 639.649"),
  (0xfcf8, "639.64a 63a.649 63a.64a 633.649 633.64a 634.649 634.64a 62d.649 62d.64a 62c.649"),
  (0xfd02, "62c.64a 62e.649 62e.64a 635.649 635.64a 636.649 636.64a 634.62c 634.62d 634.62e"),
  (0xfd0c, "634.645 634.631 633.631 635.631 636.631 637.649 637.64a 639.649 639.64a 63a.649"),
  (0xfd16, "63a.64a 633.649 633.64a 634.649 634.64a 62d.649 62d.64a 62c.649 62c.64a 62e.649"),
  (0xfd20, "62e.64a 635.649 635.64a 636.649 636.64a 634.62c 634.62d 634.62e 634.645 634.631"),
  (0xfd2a, "633.631 635.631 636.631 634.62c 634.62d 634.62e 634.645 633.647 634.647 637.645"),
  (0xfd34, "633.62c 633.62d 633.62e 634.62c 634.62d 634.62e 637.645 638.645 627.64b 627.64b"),
  (0xfd50, "62a.62c.645 62a.62d.62c 62a.62d.62c 62a.62d.645 62a.62e.645 62a.645.62c 62a.645.62d"),
  (0xfd57, "62a.645.62e 62c.645.62d 62c.645.62d 62d.645.64a 62d.645.649 633.62d.62c 633.62c.62d"),
  (0xfd5e, "633.62c.649 633.645.62d 633.645.62d 633.645.62c 633.645.645 633.645.645 635.62d.62d"),
  (0xfd65, "635.62d.62d 635.645.645 634.62d.645 634.62d.645 634.62c.64a 634.645.62e 634.645.62e"),
  (0xfd6c, "634.645.645 634.645.645 636.62d.649 636.62e.645 636.62e.645 637.645.62d 637.645.62d"),
  (0xfd73, "637.645.645 637.645.64a 639.62c.645 639.645.645 639.645.645 639.645.649 63a.645.645"),
  (0xfd7a, "63a.645.64a 63a.645.649 641.62e.645 641.62e.645 642.645.62d 642.645.645 644.62d.645"),
  (0xfd81, "644.62d.64a 644.62d.649 644.62c.62c 644.62c.62c 644.62e.645 644.62e.645 644.645.62d"),
  (0xfd88, "644.645.62d 645.62d.62c 645.62d.645 645.62d.64a 645.62c.62d 645.62c.645 645.62e.62c"),
  (0xfd8f, "645.62e.645 - - 645.62c.62e 647.645.62c 647.645.645 646.62d.645 646.62d.649"),
  (0xfd97, "646.62c.645 646.62c.645 646.62c.649 646.645.64a 646.645.649 64a.645.645 64a.645.645"),
  (0xfd9e, "628.62e.64a 62a.62c.64a 62a.62c.649 62a.62e.64a 62a.62e.649 62a.645.64a 62a.645.649"),
  (0xfda5, "62c.645.64a 62c.62d.649 62c.645.649 633.62e.649 635.62d.64a 634.62d.64a 636.62d.64a"),
  (0xfdac, "644.62c.64a 644.645.64a 64a.62d.64a 64a.62c.64a 64a.645.64a 645.645.64a 642.645.64a"),
  (0xfdb3, "646.62d.64a 642.645.62d 644.62d.645 639.645.64a 643.645.64a 646.62c.62d 645.62e.64a"),
  (0xfdba, "644.62c.645 643.645.645 644.62c.645 646.62c.62d 62c.62d.64a 62d.62c.64a 645.62c.64a"),
  (0xfdc1, "641.645.64a 628.62d.64a 643.645.645 639.62c.645 635.645.645 633.62e.64a 646.62c.64a"),
  (0xfdf0, "635.644.6d2 642.644.6d2 627.644.644.647 627.643.628.631 645.62d.645.62f"),
  (0xfdf5, "635.644.639.645 631.633.648.644 639.644.64a.647 648.633.644.645 635.644.649"),
  (0xfdfa, "635.644.649.20.627.644.644.647.20.639.644.64a.647.20.648.633.644.645"),
  (0xfdfb, "62c.644.20.62c.644.627.644.647 631.6cc.627.644"),
  (0xfe30, "2e.2e 2014 2013 5f 5f 28 29 7b 7d 3014 3015 3010 3011 300a 300b 3008 3009 300c 300d"),
  (0xfe43, "300e 300f"),
  (0xfe49, "20.305 20.305 20.305 20.305 5f 5f 5f 2c 3001 2e - 3b 3a 3f 21 2014 28 29 7b 7d 3014"),
  (0xfe5e, "3015 23 26 2a 2b 2d 3c 3e 3d - 5c 24 25 40"),
  (0xfe70, "20.64b 640.64b 20.64c - 20.64d - 20.64e 640.64e 20.64f 640.64f 20.650 640.650 20.651"),
  (0xfe7d, "640.651 20.652 640.652 621 627.653 627.653 627.654 627.654 648.654 648.654 627.655"),
  (0xfe88, "627.655 64a.654 64a.654 64a.654 64a.654 627 627 628 628 628 628 629 629 62a 62a 62a"),
  (0xfe98, "62a 62b 62b 62b 62b 62c 62c 62c 62c 62d 62d 62d 62d 62e 62e 62e 62e 62f 62f 630 630"),
  (0xfead, "631 631 632 632 633 633 633 633 634 634 634 634 635 635 635 635 636 636 636 636 637"),
  (0xfec2, "637 637 637 638 638 638 638 639 639 639 639 63a 63a 63a 63a 641 641 641 641 642 642"),
  (0xfed7, "642 642 643 643 643 643 644 644 644 644 645 645 645 645 646 646 646 646 647 647 647"),
  (0xfeec, "647 648 648 649 649 64a 64a 64a 64a 644.627.653 644.627.653 644.627.654 644.627.654"),
  (0xfef9, "644.627.655 644.627.655 644.627 644.627"),
  (0xff01, "21 22 23 24 25 26 27 28 29 2a 2b 2c 2d 2e 2f 30 31 32 33 34 35 36 37 38 39 3a 3b 3c"),
  (0xff1d, "3d 3e 3f 40 61 62 63 64 65 66 67 68 69 6a 6b 6c 6d 6e 6f 70 71 72 73 74 75 76 77 78"),
  (0xff39, "79 7a 5b 5c 5d 5e 5f 60 61 62 63 64 65 66 67 68 69 6a 6b 6c 6d 6e 6f 70 71 72 73 74"),
  (0xff55, "75 76 77 78 79 7a 7b 7c 7d 7e 2985 2986 3002 300c 300d 3001 30fb 30f2 30a1 30a3 30a5"),
  (0xff6a, "30a7 30a9 30e3 30e5 30e7 30c3 30fc 30a2 30a4 30a6 30a8 30aa 30ab 30ad 30af 30b1 30b3"),
  (0xff7b, "30b5 30b7 30b9 30bb 30bd 30bf 30c1 30c4 30c6 30c8 30ca 30cb 30cc 30cd 30ce 30cf 30d2"),
  (0xff8c, "30d5 30d8 30db 30de 30df 30e0 30e1 30e2 30e4 30e6 30e8 30e9 30ea 30eb 30ec 30ed 30ef"),
  (0xff9d, "30f3 3099 309a 1160 1100 1101 11aa 1102 11ac 11ad 1103 1104 1105 11b0 11b1 11b2 11b3"),
  (0xffae, "11b4 11b5 111a 1106 1107 1108 1121 1109 110a 110b 110c 110d 110e 110f 1110 1111 1112"),
  (0xffc2, "1161 1162 1163 1164 1165 1166 - - 1167 1168 1169 116a 116b 116c - - 116d 116e 116f"),
  (0xffd5, "1170 1171 1172 - - 1173 1174 1175 - - - a2 a3 ac 20.304 a6 a5 20a9 - 2502 2190 2191"),
  (0xffeb, "2192 2193 25a0 25cb"),
  (0x10400, "10428 10429 1042a 1042b 1042c 1042d 1042e 1042f 10430 10431 10432 10433 10434 10435"),
  (0x1040e, "10436 10437 10438 10439 1043a 1043b 1043c 1043d 1043e 1043f 10440 10441 10442 10443"),
  (0x1041c, "10444 10445 10446 10447 10448 10449 1044a 1044b 1044c 1044d 1044e 1044f"),
  (0x104b0, "104d8 104d9 104da 104db 104dc 104dd 104de 104df 104e0 104e1 104e2 104e3 104e4 104e5"),
  (0x104be, "104e6 104e7 104e8 104e9 104ea 104eb 104ec 104ed 104ee 104ef 104f0 104f1 104f2 104f3"),
  (0x104cc, "104f4 104f5 104f6 104f7 104f8 104f9 104fa 104fb"),
  (0x10570, "10597 10598 10599 1059a 1059b 1059c 1059d 1059e 1059f 105a0 105a1 - 105a3 105a4"),
  (0x1057e, "105a5 105a6 105a7 105a8 105a9 105aa 105ab 105ac 105ad 105ae 105af 105b0 105b1"),
  (0x1058c, "105b3 105b4 105b5 105b6 105b7 105b8 105b9 - 105bb 105bc"),
  (0x10c80, "10cc0 10cc1 10cc2 10cc3 10cc4 10cc5 10cc6 10cc7 10cc8 10cc9 10cca 10ccb 10ccc 10ccd"),
  (0x10c8e, "10cce 10ccf 10cd0 10cd1 10cd2 10cd3 10cd4 10cd5 10cd6 10cd7 10cd8 10cd9 10cda 10cdb"),
  (0x10c9c, "10cdc 10cdd 10cde 10cdf 10ce0 10ce1 10ce2 10ce3 10ce4 10ce5 10ce6 10ce7 10ce8 10ce9"),
  (0x10caa, "10cea 10ceb 10cec 10ced 10cee 10cef 10cf0 10cf1 10cf2"),
  (0x118a0, "118c0 118c1 118c2 118c3 118c4 118c5 118c6 118c7 118c8 118c9 118ca 118cb 118cc 118cd"),
  (0x118ae, "118ce 118cf 118d0 118d1 118d2 118d3 118d4 118d5 118d6 118d7 118d8 118d9 118da 118db"),
  (0x118bc, "118dc 118dd 118de 118df"),
  (0x16e40, "16e60 16e61 16e62 16e63 16e64 16e65 16e66 16e67 16e68 16e69 16e6a 16e6b 16e6c 16e6d"),
  (0x16e4e, "16e6e 16e6f 16e70 16e71 16e72 16e73 16e74 16e75 16e76 16e77 16e78 16e79 16e7a 16e7b"),
  (0x16e5c, "16e7c 16e7d 16e7e 16e7f"),
  (0x1d15e, "1d157.1d165 1d158.1d165 1d158.1d165.1d16e 1d158.1d165.1d16f 1d158.1d165.1d170"),
  (0x1d163, "1d158.1d165.1d171 1d158.1d165.1d172"),
  (0x1d1bb, "1d1b9.1d165 1d1ba.1d165 1d1b9.1d165.1d16e 1d1ba.1d165.1d16e 1d1b9.1d165.1d16f"),
  (0x1d1c0, "1d1ba.1d165.1d16f"),
  (0x1d400, "61 62 63 64 65 66 67 68 69 6a 6b 6c 6d 6e 6f 70 71 72 73 74 75 76 77 78 79 7a 61 62"),
  (0x1d41c, "63 64 65 66 67 68 69 6a 6b 6c 6d 6e 6f 70 71 72 73 74 75 76 77 78 79 7a 61 62 63 64"),
  (0x1d438, "65 66 67 68 69 6a 6b 6c 6d 6e 6f 70 71 72 73 74 75 76 77 78 79 7a 61 62 63 64 65 66"),
  (0x1d454, "67 - 69 6a 6b 6c 6d 6e 6f 70 71 72 73 74 75 76 77 78 79 7a 61 62 63 64 65 66 67 68"),
  (0x1d470, "69 6a 6b 6c 6d 6e 6f 70 71 72 73 74 75 76 77 78 79 7a 61 62 63 64 65 66 67 68 69 6a"),
  (0x1d48c, "6b 6c 6d 6e 6f 70 71 72 73 74 75 76 77 78 79 7a 61 - 63 64 - - 67 - - 6a 6b - - 6e"),
  (0x1d4aa, "6f 70 71 - 73 74 75 76 77 78 79 7a 61 62 63 64 - 66 - 68 69 6a 6b - 6d 6e - 70 71 72"),
  (0x1d4c8, "73 74 75 76 77 78 79 7a 61 62 63 64 65 66 67 68 69 6a 6b 6c 6d 6e 6f 70 71 72 73 74"),
  (0x1d4e4, "75 76 77 78 79 7a 61 62 63 64 65 66 67 68 69 6a 6b 6c 6d 6e 6f 70 71 72 73 74 75 76"),
  (0x1d500, "77 78 79 7a 61 62 - 64 65 66 67 - - 6a 6b 6c 6d 6e 6f 70 71 - 73 74 75 76 77 78 79"),
  (0x1d51e, "61 62 63 64 65 66 67 68 69 6a 6b 6c 6d 6e 6f 70 71 72 73 74 75 76 77 78 79 7a 61 62"),
  (0x1d53b, "64 65 66 67 - 69 6a 6b 6c 6d - 6f - - - 73 74 75 76 77 78 79 - 61 62 63 64 65 66 67"),
  (0x1d559, "68 69 6a 6b 6c 6d 6e 6f 70 71 72 73 74 75 76 77 78 79 7a 61 62 63 64 65 66 67 68 69"),
  (0x1d575, "6a 6b 6c 6d 6e 6f 70 71 72 73 74 75 76 77 78 79 7a 61 62 63 64 65 66 67 68 69 6a 6b"),
  (0x1d591, "6c 6d 6e 6f 70 71 72 73 74 75 76 77 78 79 7a 61 62 63 64 65 66 67 68 69 6a 6b 6c 6d"),
  (0x1d5ad, "6e 6f 70 71 72 73 74 75 76 77 78 79 7a 61 62 63 64 65 66 67 68 69 6a 6b 6c 6d 6e 6f"),
  (0x1d5c9, "70 71 72 73 74 75 76 77 78 79 7a 61 62 63 64 65 66 67 68 69 6a 6b 6c 6d 6e 6f 70 71"),
  (0x1d5e5, "72 73 74 75 76 77 78 79 7a 61 62 63 64 65 66 67 68 69 6a 6b 6c 6d 6e 6f 70 71 72 73"),
  (0x1d601, "74 75 76 77 78 79 7a 61 62 63 64 65 66 67 68 69 6a 6b 6c 6d 6e 6f 70 71 72 73 74 75"),
  (0x1d61d, "76 77 78 79 7a 61 62 63 64 65 66 67 68 69 6a 6b 6c 6d 6e 6f 70 71 72 73 74 75 76 77"),
  (0x1d639, "78 79 7a 61 62 63 64 65 66 67 68 69 6a 6b 6c 6d 6e 6f 70 71 72 73 74 75 76 77 78 79"),
  (0x1d655, "7a 61 62 63 64 65 66 67 68 69 6a 6b 6c 6d 6e 6f 70 71 72 73 74 75 76 77 78 79 7a 61"),
  (0x1d671, "62 63 64 65 66 67 68 69 6a 6b 6c 6d 6e 6f 70 71 72 73 74 75 76 77 78 79 7a 61 62 63"),
  (0x1d68d, "64 65 66 67 68 69 6a 6b 6c 6d 6e 6f 70 71 72 73 74 75 76 77 78 79 7a"),
  (0x1d6a8, "3b1 3b2 3b3 3b4 3b5 3b6 3b7 3b8 3b9 3ba 3bb 3bc 3bd 3be 3bf 3c0 3c1 3b8 3c3 3c4 3c5"),
  (0x1d6bd, "3c6 3c7 3c8 3c9 2207 3b1 3b2 3b3 3b4 3b5 3b6 3b7 3b8 3b9 3ba 3bb 3bc 3bd 3be 3bf 3c0"),
  (0x1d6d2, "3c1 3c3 3c3 3c4 3c5 3c6 3c7 3c8 3c9 2202 3b5 3b8 3ba 3c6 3c1 3c0 3b1 3b2 3b3 3b4 3b5"),
  (0x1d6e7, "3b6 3b7 3b8 3b9 3ba 3bb 3bc 3bd 3be 3bf 3c0 3c1 3b8 3c3 3c4 3c5 3c6 3c7 3c8 3c9 2207"),
  (0x1d6fc, "3b1 3b2 3b3 3b4 3b5 3b6 3b7 3b8 3b9 3ba 3bb 3bc 3bd 3be 3bf 3c0 3c1 3c3 3c3 3c4 3c5"),
  (0x1d711, "3c6 3c7 3c8 3c9 2202 3b5 3b8 3ba 3c6 3c1 3c0 3b1 3b2 3b3 3b4 3b5 3b6 3b7 3b8 3b9 3ba"),
  (0x1d726, "3bb 3bc 3bd 3be 3bf 3c0 3c1 3b8 3c3 3c4 3c5 3c6 3c7 3c8 3c9 2207 3b1 3b2 3b3 3b4 3b5"),
  (0x1d73b, "3b6 3b7 3b8 3b9 3ba 3bb 3bc 3bd 3be 3bf 3c0 3c1 3c3 3c3 3c4 3c5 3c6 3c7 3c8 3c9 2202"),
  (0x1d750, "3b5 3b8 3ba 3c6 3c1 3c0 3b1 3b2 3b3 3b4 3b5 3b6 3b7 3b8 3b9 3ba 3bb 3bc 3bd 3be 3bf"),
  (0x1d765, "3c0 3c1 3b8 3c3 3c4 3c5 3c6 3c7 3c8 3c9 2207 3b1 3b2 3b3 3b4 3b5 3b6 3b7 3b8 3b9 3ba"),
  (0x1d77a, "3bb 3bc 3bd 3be 3bf 3c0 3c1 3c3 3c3 3c4 3c5 3c6 3c7 3c8 3c9 2202 3b5 3b8 3ba 3c6 3c1"),
  (0x1d78f, "3c0 3b1 3b2 3b3 3b4 3b5 3b6 3b7 3b8 3b9 3ba 3bb 3bc 3bd 3be 3bf 3c0 3c1 3b8 3c3 3c4"),
  (0x1d7a4, "3c5 3c6 3c7 3c8 3c9 2207 3b1 3b2 3b3 3b4 3b5 3b6 3b7 3b8 3b9 3ba 3bb 3bc 3bd 3be 3bf"),
  (0x1d7b9, "3c0 3c1 3c3 3c3 3c4 3c5 3c6 3c7 3c8 3c9 2202 3b5 3b8 3ba 3c6 3c1 3c0"),
  (0x1d7ce, "30 31 32 33 34 35 36 37 38 39 30 31 32 33 34 35 36 37 38 39 30 31 32 33 34 35 36 37"),
  (0x1d7ea, "38 39 30 31 32 33 34 35 36 37 38 39 30 31 32 33 34 35 36 37 38 39"),
  (0x1e900, "1e922 1e923 1e924 1e925 1e926 1e927 1e928 1e929 1e92a 1e92b 1e92c 1e92d 1e92e 1e92f"),
  (0x1e90e, "1e930 1e931 1e932 1e933 1e934 1e935 1e936 1e937 1e938 1e939 1e93a 1e93b 1e93c 1e93d"),
  (0x1e91c, "1e93e 1e93f 1e940 1e941 1e942 1e943"),
  (0x2f800, "4e3d 4e38 4e41 20122 4f60 4fae 4fbb 5002 507a 5099 50e7 50cf 349e 2063a 514d 5154"),
  (0x2f810, "5164 5177 2051c 34b9 5167 518d 2054b 5197 51a4 4ecc 51ac 51b5 291df 51f5 5203 34df"),
  (0x2f820, "523b 5246 5272 5277 3515 52c7 52c9 52e4 52fa 5305 5306 5317 5349 5351 535a 5373 537d"),
  (0x2f831, "537f 537f 537f 20a2c 7070 53ca 53df 20b63 53eb 53f1 5406 549e 5438 5448 5468 54a2"),
  (0x2f841, "54f6 5510 5553 5563 5584 5584 5599 55ab 55b3 55c2 5716 5606 5717 5651 5674 5207 58ee"),
  (0x2f852, "57ce 57f4 580d 578b 5832 5831 58ac 214e4 58f2 58f7 5906 591a 5922 5962 216a8 216ea"),
  (0x2f862, "59ec 5a1b 5a27 59d8 5a66 36ee 2136a 5b08 5b3e 5b3e 219c8 5bc3 5bd8 5be7 5bf3 21b18"),
  (0x2f872, "5bff 5c06 5f33 5c22 3781 5c60 5c6e 5cc0 5c8d 21de4 5d43 21de6 5d6e 5d6b 5d7c 5de1"),
  (0x2f882, "5de2 382f 5dfd 5e28 5e3d 5e69 3862 22183 387c 5eb0 5eb3 5eb6 5eca 2a392 5efe 22331"),
  (0x2f892, "22331 8201 5f22 5f22 38c7 232b8 261da 5f62 5f6b 38e3 5f9a 5fcd 5fd7 5ff9 6081 393a"),
  (0x2f8a2, "391c 6094 226d4 60c7 6148 614c 614e 614c 617a 618e 61b2 61a4 61af 61de 61f2 61f6"),
  (0x2f8b2, "6210 621b 625d 62b1 62d4 6350 22b0c 633d 62fc 6368 6383 63e4 22bf1 6422 63c5 63a9"),
  (0x2f8c2, "3a2e 6469 647e 649d 6477 3a6c 654f 656c 2300a 65e3 66f8 6649 3b19 6691 3b08 3ae4"),
  (0x2f8d2, "5192 5195 6700 669c 80ad 43d9 6717 671b 6721 675e 6753 233c3 3b49 67fa 6785 6852"),
  (0x2f8e2, "6885 2346d 688e 681f 6914 3b9d 6942 69a3 69ea 6aa8 236a3 6adb 3c18 6b21 238a7 6b54"),
  (0x2f8f2, "3c4e 6b72 6b9f 6bba 6bbb 23a8d 21d0b 23afa 6c4e 23cbc 6cbf 6ccd 6c67 6d16 6d3e 6d77"),
  (0x2f902, "6d41 6d69 6d78 6d85 23d1e 6d34 6e2f 6e6e 3d33 6ecb 6ec7 23ed1 6df9 6f6e 23f5e 23f8e"),
  (0x2f912, "6fc6 7039 701e 701b 3d96 704a 707d 7077 70ad 20525 7145 24263 719c 43ab 7228 7235"),
  (0x2f922, "7250 24608 7280 7295 24735 24814 737a 738b 3eac 73a5 3eb8 3eb8 7447 745c 7471 7485"),
  (0x2f932, "74ca 3f1b 7524 24c36 753e 24c92 7570 2219f 7610 24fa1 24fb8 25044 3ffc 4008 76f4"),
  (0x2f941, "250f3 250f2 25119 25133 771e 771f 771f 774a 4039 778b 4046 4096 2541d 784e 788c 78cc"),
  (0x2f951, "40e3 25626 7956 2569a 256c5 798f 79eb 412f 7a40 7a4a 7a4f 2597c 25aa7 25aa7 7aae"),
  (0x2f960, "4202 25bab 7bc6 7bc9 4227 25c80 7cd2 42a0 7ce8 7ce3 7d00 25f86 7d63 4301 7dc7 7e02"),
  (0x2f970, "7e45 4334 26228 26247 4359 262d9 7f7a 2633e 7f95 7ffa 8005 264da 26523 8060 265a8"),
  (0x2f97f, "8070 2335f 43d5 80b2 8103 440b 813e 5ab5 267a7 267b5 23393 2339c 8201 8204 8f9e 446b"),
  (0x2f98f, "8291 828b 829d 52b3 82b1 82b3 82bd 82e6 26b3c 82e5 831d 8363 83ad 8323 83bd 83e7"),
  (0x2f99f, "8457 8353 83ca 83cc 83dc 26c36 26d6b 26cd5 452b 84f1 84f3 8516 273ca 8564 26f2c 455d"),
  (0x2f9af, "4561 26fb1 270d2 456b 8650 865c 8667 8669 86a9 8688 870e 86e2 8779 8728 876b 8786"),
  (0x2f9bf, "4d57 87e1 8801 45f9 8860 8863 27667 88d7 88de 4635 88fa 34bb 278ae 27966 46be 46c7"),
  (0x2f9cf, "8aa0 8aed 8b8a 8c55 27ca8 8cab 8cc1 8d1b 8d77 27f2f 20804 8dcb 8dbc 8df0 208de 8ed4"),
  (0x2f9df, "8f38 285d2 285ed 9094 90f1 9111 2872e 911b 9238 92d7 92d8 927c 93f9 9415 28bfa 958b"),
  (0x2f9ef, "4995 95b7 28d77 49e6 96c3 5db2 9723 29145 2921a 4a6e 4a76 97e0 2940a 4ab2 29496 980b"),
  (0x2f9ff, "980b 9829 295b6 98e2 4b33 9929 99a7 99c2 99fe 4bce 29b30 9b12 9c40 9cfd 4cce 4ced"),
  (0x2fa0f, "9d67 2a0ce 4cf8 2a105 2a20e 2a291 9ebb 4d56 9ef9 9efe 9f05 9f0f 9f16 9f3b 2a600")]

end Folding

end PolyCommit
