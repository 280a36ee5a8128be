import Pipework.Unicode.RangeSet

/-!
# Ages

The version of Unicode that assigned each code point, written as runs: a length and the letter of
the version. A run without a letter is of code points that no version up to 16 assigns.
-/

namespace Pipework.Unicode.Age

/-- The versions and their letters, oldest first. -/
def versions : List (String × String) :=
  [("1.1", "a"), ("2.0", "b"), ("2.1", "c"), ("3.0", "d"), ("3.1", "e"), ("3.2", "f"),
   ("4.0", "g"), ("4.1", "h"), ("5.0", "i"), ("5.1", "j"), ("5.2", "k"), ("6.0", "l"),
   ("6.1", "m"), ("6.2", "n"), ("6.3", "o"), ("7.0", "p"), ("8.0", "q"), ("9.0", "r"),
   ("10.0", "s"), ("11.0", "t"), ("12.0", "u"), ("12.1", "v"), ("13.0", "w"), ("14.0", "x"),
   ("15.0", "y"), ("15.1", "z"), ("16.0", "A")]

def runs : LabelRuns :=
  .ofRuns [
    "502a 4d 30a 8d 1f 1g 18d 3g 11h 14i 89a 5d 2g 47a 1d 10a 5d 17g 70a 9d 1f 8g 5h 3g 2a 1d 13f",
    "4j 2a 2j 2 1a 3i 1a 1p 4 7a 1 1a 1 20a 1 44a 1j 7a 1d 2f 1a 1d 1a 1d 1a 1d 1a 1d 18a 2e 1f",
    "5g 4h 1d 12a 1d 66a 1d 12a 1d 41a 1j 2d 2f 4d 53a 2f 2a 2f 2a 2f 1i 28a 2d 8a 2h 2a 6i 16f",
    "4i 16j 2k 2l 8p 1 38a 2 7a 1t 39a 1t 1a 1d 2 2p 1m 1 17b 1h 13b 10a 1i 9a 1b 3h 8 27a 4 1t",
    "5a 11 4g 1m 1p 5j 1h 1a 9g 5j 1a 1o 1x 1h 1a 1l 26a 5j 19a 3d 3g 6h 1l 14a 2f 72a 2d 5a 1d",
    "15a 1d 30a 2g 10a 5d 1g 14d 1 30d 3g 27d 2 3g 30h 18j 49d 1f 14 59i 2 3t 46k 2 15k 1 28l 2",
    "1l 1 11s 5 31x 1 2x 5 1A 8x 1m 1p 11m 6p 2q 1x 8r 10w 11x 1t 15r 1q 27m 1p 1k 3a 1g 53a 2l",
    "18a 1k 1l 5a 1k 2l 25a 2j 5l 1p 2k 2i 1h 2i 1p 3a 1 8a 2 2a 2 22a 1 7a 1 1a 3 4a 2 1a 1g 7a",
    "2 2a 2 3a 1h 8 1a 4 2a 1 5a 2 21a 1k 2s 1t 2 1g 1a 1g 1 6a 4 2a 2 22a 1 7a 1 2a 1 2a 1 2a 2",
    "1a 1 5a 4 2a 2 3a 3 1j 7 4a 1 1a 7 15a 1j 1t 10 3a 1 7a 1g 1a 1 3a 1 22a 1 7a 1 2a 1 5a 2",
    "10a 1 3a 1 3a 2 1a 15 1a 3g 2 10a 1m 1g 7 1q 6s 1 3a 1 8a 2 2a 2 22a 1 7a 1 2a 1 1g 4a 2 8a",
    "1j 2 2a 2 3a 7 1w 2a 4 2a 1 3a 2j 2 11a 1g 6l 10 2a 1 6a 3 3a 1 4a 3 2a 1 1a 1 2a 3 2a 3 3a",
    "3 8a 1h 3a 4 5a 3 3a 1 4a 2 1j 6 1a 14 1h 12a 8g 5 1p 3a 1t 8a 1 3a 1 23a 1 10a 1p 5a 2 1x",
    "1j 7a 1 3a 1 4a 7 2a 1 2j 1q 2 1x 2 2a 2j 2 10a 7 1u 8j 1r 1p 2a 1t 8a 1 3a 1 23a 1 10a 1 5a",
    "2 2g 7a 1 3a 1 4a 7 2a 6 1x 1a 1 2a 2i 2 10a 1 2i 1y 12 1s 1p 2a 1w 8a 1 3a 1 23a 1l 16a 1l",
    "2s 1j 6a 1j 1 3a 1 4a 1l 1r 4 3r 1a 7r 1q 2a 2j 2 10a 6j 3r 7j 1 1w 2d 1 18d 3 24d 1 9d 1 1d",
    "2 7d 3 1d 4 6d 1 1d 1 8d 6 10p 2 3d 12 58a 4 29a 37 2a 1 1a 1 1u 2a 1u 1a 1 1u 1a 6u 4a 1u",
    "7a 1u 3a 1 1a 1 1a 2u 2a 1u 13a 1u 3a 2 5a 1 1a 1 6a 1y 1 10a 2 2a 2m 32 72b 1 33b 1d 2j 4",
    "27b 4l 6b 1d 1b 1 21b 3d 7b 1d 1b 3d 1 15d 1 1j 1d 2h 3j 4k 2l 37 34d 1j 5d 1j 2d 1j 7d 3j",
    "4d 6j 26d 64j 4k 2j 38a 1 1m 5 1m 2 39a 2f 2h 1a 1h 3m 90a 5k 68a 5k 82a 6k 7d 1h 63d 1h 1d",
    "1 4d 2 7d 1 1d 1 4d 2 39d 1h 1d 1 4d 2 31d 1h 1d 1 4d 2 7d 1 1d 1 4d 2 7d 1h 7d 1 23d 1h 31d",
    "1h 1d 1 4d 2 7d 1h 39d 1h 19d 2 2l 2h 28d 3 26h 6 85d 1q 2 6q 2 1k 630d 9k 29d 3 81d 8p 7",
    "13f 1x 7f 1x 9 1x 23f 9 20f 12 13f 1 3f 1 2f 12 93d 1g 2 10d 6 10g 6 15d 1x 10d 6 88d 1t 7",
    "42d 1j 5 70k 10 29g 2p 1 12g 4 12g 4 1g 3 42g 2 5g 11 42h 2k 4 26h 6 10h 1k 3 2h 32g 28h 2",
    "2h 63k 1 29k 2 11k 6 10k 6 14k 2 15p 2w 14x 49 76i 1x 1 2A 45i 2x 1A 43j 3m 12j 6m 52l 8 4l",
    "56j 3 15j 3 51j 9r 2A 5 43t 2 3t 8m 8 35k 4m 1s 2p 1u 5 108g 88h 7i 28j 15p 4s 1x 1r 1l 1k",
    "2i 155a 1b 4j 90a 6j 22a 2 6a 2 38a 2 6a 2 8a 1 1a 1 1a 1 1a 1 31a 2 53a 1 15a 1 14a 2 6a 1",
    "19a 2 3a 1 9a 1 47a 1d 23a 1f 6d 5f 2g 2h 1f 7h 5f 1j 1 4o 7a 1f 2 27a 1 5h 8l 3 11a 1b 1c",
    "3d 2f 4h 3k 1l 1n 3p 1q 1s 1x 15 18a 2d 7f 1h 4i 1j 15 57a 2d 1g 1h 15f 1h 2i 1j 3k 48a 1d",
    "1i 4j 1k 2q 4 91a 9d 12f 242a 14f 1a 1d 121a 1d 1f 30d 52f 2g 11h 12i 1k 11l 7p 4r 1s 37a 2d",
    "3A 22 11a 21 139a 20f 1g 150a 10f 80a 8d 8f 20a 2g 2f 1h 1d 86a 2d 12f 2h 10f 8g 11h 1j 2k",
    "2g 16h 1i 10j 3k 4j 10k 1l 19k 1l 1k 4l 24k 1p 4a 1l 4a 2l 28a 1l 35a 1l 1a 1l 4a 3l 1a 1k",
    "7a 2l 7a 14f 31a 3l 24a 1l 14a 1l 7h 4i 1m 1j 1m 2l 28f 4j 16f 256d 512f 14g 6h 7i 5j 4i 41j",
    "3p 5j 5k 26p 2 32p 1 1w 34p 3t 12p 1u 8p 1s 25t 4q 15t 1u 47h 1x 47h 1x 13i 3j 1k 3j 4i 6j",
    "2k 107h 7k 2m 5 45h 1 1m 5 1m 2 54h 2m 7 1h 1l 14 1l 23h 9 7h 1 7h 1 7h 1 7h 1 7h 1 7h 1 7h",
    "1 7h 1 32j 24h 4j 2h 19j 1k 10m 7p 2r 5s 5t 1u 3w 11x 34 26d 1 89d 12 214d 26 12d 4z 56a 3d",
    "3f 1d 1a 1 84a 2f 2 6a 2f 94a 1f 5 40a 1j 1s 1t 1 94a 1 16a 24d 3l 5w 16h 20j 2A 9 1z 16f",
    "29a 2g 1 36a 12k 1g 15f 28a 2g 1h 50a 15f 12a 4g 47a 1v 119a 4g 99a 2g 31a 1g 6582d 10w 64g",
    "20902a 22h 8j 8k 1m 9q 21s 5t 13w 3x 1165d 3 18d 2f 16d 1f 12d 1f 3d 1f 1d 9 48k 300j 20 32j",
    "2l 18j 8m 28j 6p 1q 1m 88k 8 23h 4i 5j 2i 107j 2l 1q 2l 2m 12p 10l 1m 3p 1r 1t 2p 6q 2t 6u",
    "2x 5u 4w 3A 2 2x 1 1x 1 5x 3A 21 3x 2w 1p 2m 1l 5j 44h 1w 3 10k 6 56i 8 69j 1r 8 12j 6 28k",
    "2q 2t 84j 11 1j 29k 3 78k 1 11k 4 2k 31p 1 55j 9 14j 2 10j 2 4j 28k 4p 67k 24 5k 23m 10 6l 2",
    "6l 2 6l 9 7l 1 7l 1 48p 4q 2p 2u 4w 4 80q 46k 2 10k 6 11172b 12 23k 4 49k 2052 6702a 2m 59f",
    "3k 2 106h 38 7a 12 5a 5 1d 25a 1 5a 1 1a 1 2a 1 2a 1 108a 16l 1x 16 365a 16x 64a 2 54a 7 1x",
    "32e 12a 1f 1g 2x 16f 10h 6 4a 3j 7p 2q 21a 2f 2g 10a 1 19a 1 4a 4 3a 1f 1a 1 135a 2 1a 1 94a",
    "2f 94a 3 6a 2 6a 2 6a 2 3a 3 7a 1 7a 10 3d 1c 3a 12g 1 26g 1 19g 1 2g 1 15g 2 14g 34 123g 5",
    "3g 4 45g 3 9g 75h 2p 2r 1 12j 1w 3 1p 47 46j 130 29j 3 49j 15 28p 4 31e 1p 4e 9 3s 27e 5 43p",
    "5 30g 1 1g 36h 4 14h 42 38e 2g 38e 80g 2 10g 6 36r 4 36r 4 40p 8 52p 11 1p 11x 1 15x 1 7x 1",
    "2x 1 11x 1 15x 1 7x 1 2x 3 52A 12 311p 9 22p 10 8p 24 6x 1 42x 1 9x 69 6g 2 1g 1 44g 1 2g 3",
    "1g 2 1g 22k 1 9k 63p 8 9p 48 19q 1 2q 5 5q 26i 2k 3 1i 26j 5 1j 64 56m 4 2q 2m 16q 2 46q 4h",
    "1 2h 5 8h 1 3h 1 27h 2t 2 3h 4 9h 1t 7 9h 7 32k 32p 32 39p 4 12p 9 54k 3 29k 2 27k 5 8k 18p",
    "7 4p 12 7p 80 73k 55 51q 13 51q 7 6q 40t 8 10t 6 38A 3 29A 8 2A 208 31k 1 42w 1 3w 2 2w 16",
    "3A 55 1A 3y 40t 8 42t 22 26x 38 28w 20 23u 9 78l 4 30l 6x 9 1p 66k 1x 10 1t 2 25m 7 10m 6",
    "53m 1 14m 3t 1w 8 39p 9 73m 4q 1p 2w 10m 1p 5q 1 20p 11 18p 1 43p 1r 3y 62 7q 1 1q 1 4q 1",
    "15q 1 11q 6 59p 5 10p 6 1q 3p 1 8p 2 2p 2 22p 1 7p 1 2p 1 5p 1 1t 9p 2 2p 2 3p 2 1q 6 1p 5",
    "7p 2 7p 3 5p 11 10A 1 1A 2 1A 1 38A 1 10A 1 1A 2 1A 1 4A 1 10A 1 2A 8 2A 29 90r 1w 1r 1 1r",
    "1t 1u 2w 30 72p 8 10p 166 54p 2 18p 20q 34 69p 11 10p 6 13r 19 56m 1u 1x 6 10m 6 20A 28 26q",
    "1t 2 15q 4 16q 7x 185 60t 100 83p 12 1p 7w 2 1w 2 8w 1 2w 1 30w 1 2w 2 12w 9 10w 70 8u 2 46u",
    "2 11u 27 72s 8 52s 2u 23s 1t 5s 13 16x 57p 7 10y 182 34A 14 10A 6 9r 1 45r 1 14r 10 29r 3",
    "32r 2 22r 1 14r 73 7s 1 2s 1 44s 3 1s 1 2s 1 9s 8 10s 6 6t 1 2t 1 37t 1 2t 1 6t 7 10t 310",
    "25t 7 17y 1 41y 3 28y 1A 85 1w 15 50u 13 1u 879i 42p 1q 102 99i 12p 1 4i 1p 11 196q 2636 99x",
    "13 1071k 1y 9u 29y 10 3995A 5 583q 6841 58A 1734 569l 7 31p 1 10p 4 2p 79x 1 10x 6 30p 2 6p",
    "10 70p 10 10p 1 7p 1 21p 5 19p 432 58A 198 91t 101 69m 6u 4 1u 47m 9u 7 17m 64 1r 1s 2u 1w",
    "11 2w 14 6125r 5t 6u 8 755r 483w 41 1A 9w 8935 4x 1 7x 1 2x 1 2l 285s 4x 15 1y 29 3u 2 1y 14",
    "4u 8 396s 2308 107p 5 13p 3 9p 7 10p 2 8p 3932 250A 6 436A 76 46x 2 23x 9 116x 60 246e 10",
    "39e 2 1j 180e 11q 2x 21 70h 122 20y 12 20t 12 87g 9 18i 7t 135 85e 1 71e 1 2e 2 1e 2 2e 2 4e",
    "1 12e 1 1e 1 4e 1g 2e 1 65e 1 4e 2 8e 1 7e 1 28e 1 4e 1 5e 1 1e 3 7e 1 338e 2h 2 290e 2i 2",
    "50e 652q 15 5q 1 15q 1104 31x 6 6y 213 7r 1 17r 2 7r 1 2r 1 5r 5 62y 33 1y 112 45u 3 14u 2",
    "10u 4 2u 320 31x 17 58u 5 1u 464 42y 214 43A 4 1A 480 7x 1 4x 1 2x 1 15x 1 197p 2 16p 41 75r",
    "1u 4 10r 4 2r 785 68t 76 61u 194 4m 1 27m 1 2m 1 1m 2 1m 1 10m 1 4m 1 1m 1 1m 6 1m 4 1m 1 1m",
    "1 1m 1 3m 1 2m 1 1m 2 1m 1 1m 1 1m 1 1m 1 1m 1 2m 1 1m 2 4m 1 7m 1 4m 1 4m 1 1m 1 10m 1 17m",
    "5 3m 1 5m 1 17m 52 2m 270 44j 4 100j 12 15l 2 14l 1p 1 15l 1 15l 22p 10 11k 2p 3w 31k 1t 1l",
    "1k 11l 1k 1l 1k 2l 1k 3l 1k 3l 5k 8l 1k 7l 1k 10l 2m 1u 3w 9l 1k 1l 2k 2l 1k 10l 4k 2l 1k",
    "10l 18r 1w 56 26l 1k 2l 13 34k 9l 1r 4 9k 7 2l 14 6s 154 33l 12p 3q 6l 1p 70l 1p 2q 20l 12p",
    "37l 1p 5l 4p 5q 12p 17l 7p 8q 63l 1p 1l 1p 182l 1p 4l 2p 1q 62l 2p 4m 7p 5q 24l 18p 1r 41p",
    "1r 86p 5l 1m 16l 1m 3l 1m 1l 1m 1l 1m 1l 1m 3l 1m 6l 2m 4l 1m 1l 2m 4l 1m 12l 2p 2q 11l 48p",
    "70l 10p 1q 2r 2s 1u 2w 4 1y 3x 13p 3 4p 3r 2s 1t 1u 2w 3 116l 3y 4 5y 85p 4t 1y 6 12u 4 1x",
    "15 12p 4 56p 8 10p 6 40p 8 30p 2 2w 10A 4 2A 62 12s 1w 3u 9q 6r 1s 8r 8s 1r 2s 12r 1u 12r 1s",
    "3t 15r 13s 5t 1u 1w 4t 2w 1x 1t 1u 4t 5q 13r 6s 11t 2w 6u 3w 2u 10t 6u 1q 2t 8u 1w 1x 3u 23s",
    "25t 84u 12 14t 2 4u 1w 3y 3u 2x 3 3u 4w 2y 1A 5 1A 6u 19w 4x 3y 7w 4x 3y 1A 1y 3w 3x 1A 7 2y",
    "7w 3x 2y 1A 2 1A 8x 1y 1A 6 7x 2y 7 147w 1 55w 37A 10w 1028 2b 42711e 7w 2x 32 4149k 4x 1y 6",
    "222l 2 5762q 14 7473s 15 622z 2466 542e 1504 2b 4939w 5 4192y 56398 2b 65534 2b 65534 2b",
    "65534 2b 65534 2b 65534 2b 65534 2b 65534 2b 65534 2b 65534 2b 65534 2b 1 1e 30 96e 128 240g",
    "65038 131074b"]

/-- A version is named as it is, or without its point behind a `v`. -/
def named? (name : String) : Option String :=
  (versions.map (·.1)).find? fun version =>
    name == version || name.toList == 'v' :: version.toList.filter Char.isDigit

/-- The letters of all versions up to one. -/
def upTo (version : String) : List String :=
  ((versions.takeWhile (·.1 != version)).map (·.2)) ++ (versions.lookup version).toList

/-- A character has every age from the version on that assigned it. -/
def set (version : String) : RangeSet := runs.select (upTo version).contains

end Pipework.Unicode.Age
