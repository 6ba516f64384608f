import PodManual.Text.Basic

/-!
# The table of names of characters

The names of characters and their other names are too many and too long to list them.
The table has their fingerprints, in ascending order: each is written as its distance
from the one before it.  A name that is not in the standard is very unlikely to have
the fingerprint of one that is.
-/

namespace PodManual
namespace NameTable

/-! ## Fingerprints -/

/-- Fingerprints are below this prime. -/
def bound : Nat := 1048573

/-- What a fingerprint is multiplied with before the next character is added. -/
def factor : Nat := 1443

def fingerprint (name : Text) : Nat :=
  name.foldl (fun n c => (n * factor + c.toNat) % bound) 0

/-! ## Distances -/

/-- The value of a digit or of a letter, which goes on after the digits. -/
def digit (c : Char) : Nat :=
  if c.isDigit then c.toNat - '0'.toNat
  else if c.isUpper then c.toNat - 'A'.toNat + 10
  else c.toNat - 'a'.toNat + 36

/-- The value that does not end a distance: it goes on with the next digit. -/
def longest : Nat := 61

/-- A number is among those at the distances that are written, the first of them from
another number. -/
def holdsFrom (n : Nat) : Nat -> List Char -> Bool
  | _, [] => false
  | last, c :: rest =>
      (digit c != longest && last + digit c == n) || holdsFrom n (last + digit c) rest

def distances : List String :=
  ["zzY5kzsAlB53zTgi1U44664NYlzI6X4z2n5eO848zNzzG446z2IzOz94336JO3zrF1111111165zg8xz9zzW9A9nHl",
   "So1224fz5zd6UbzX76wI5Vzzv5H9au111111111Bz2g8VzWQYz0qMDBbE61DB1s5QzF8ITYzizS446pD4466548zzE",
   "mp6zNQ5zH171664zLzbzIzU22z4OSA54zB1111111111111111111111111id44zOP5uuzAzAaYQrzyQxM51FMHzz7",
   "QzVF4RCz1YXzzAz0zcz5HePICVzzezzC8lzB2I43111111115zzlzMG3F7zIRkC9c2247ZiW516vOC7dzHZz4LpzCJ",
   "rzOmJR6z3D8Uz68E11761zzFkMDJzzaRMkzzzL4466DzzU48uU7qRx31gZ8zFGGACZz5X7ZMzQzPrefzzFIN4466hY",
   "z7CzNzjBM4zZzB9SegD4AzCzoLhDXJbiJ4Kz9zbdFAzzzW6zLgvSNWr6zFzzWGzJdCf4kzbzKVFD63zoqzzzPAHVM5",
   "3PHp8yzNpK7n6jWCM28144F7ztHA1HZzzfQzz8tj4RzdzzzFBr1sP371pT87gzzNP664Lr5DlGPzGz7zVVCU9Fzczu",
   "4A4zhzrApfz8jzrDRDPzChz2H3AzvGzyXM844O8Cb5jfmzK111121Uz5TzNzpzQ6ZgN81zz3Q4uICxzzOS5hFzue1z",
   "zzzOfzOZHEXzzpUAHZz2B4466zP5zzz7QzBJ6inZrz3xzzzmKx2zuzzCzr8OO6zzzHcN6k5P1zPKgz6TYJpt6HT45z",
   "Nyz3mqMFzAOFKz0xz844bBoBzzzHNzDG8bShacHFJz6Nz86z1WPU2zVzzze25lY4466zy6zMzzKzz1ztC71G74zz6L",
   "3eDzzCzbKgO6TPB5VzSWt211111z9z89WAzzQzzH4A61a6zazd7gCz0hQ8GyfLWMSBiFMxzMH844664111B4A64PB2",
   "Y4zozzzP222C3J44663WzzGLzwdxs24468zFsRcEal3zRQS12131663211LHzzpz6446Kx4466aZKB44WUcJzzz5yJ",
   "fN31Y7HhlUFfIhkzzF91k2AoqbRrN4wqHzX5z0XzzzCI6zkPTzJmg4zQsEUQAiP1224zezDz3OUzxHTJDp7zizBFAz",
   "zr413OD8k7x5Yzzr445124JXLRqzfhzADMzzBzCz1zSs7D44zGzs1zK233zz6AOKB442tGVz194466K9zOzar8Gkm4",
   "U6Az0Y5ncIV5LBK8O88zDzCRA2hzzUzCzz1cZ42266zWzgNzJzzzoFzzARPQ44651kcmzSVz9a2zAnzjLd4466Q156",
   "zpPzV2edE3JCmTR44cEyzzF3e9zV1BR98A8zXz7MVURpi4zs44B14zCUCAA9CINzQZl1IHX4aC21zA3LzC3fH5zGz4",
   "ES9zFv4Nxzu941W4661wHAnIzzb7zF4zi3zzHzztK8A517Cz2XzOU7z6ciA21DBaNBILzg7446WRzh1111hEzMzzb6",
   "XQ439TzzHm1JXzz4S45zLBNCz261DzS2EzXkzQzzz2Tzzzs833M1znNw4136dkDzE1GB44pJcWtzlUm7yE65pzRO44",
   "6653E6BBQCU5zDjltcbzUx466IKz1uOziV1lRDC93zPSCz1COzsz4Jz1JzEzz665N12241hP5hc119fg54AzJzGVz6",
   "7SjzA6O6I9zztC44zzW96acFzMzHheT2dE4JIJZHU6OzBL5krVcz2Ygk66444zGGzzNaRzHwz4Lz7Qc2E1KH6azVTI",
   "V1B3WXz34LJN8Gzl737zHFLzld7zVCzzvv5zI8zzSOtz1Q3z74466J3DyzrIRQuzMuE8eqK21nzk1zgAKWKve222vZ",
   "Cl413OzAlz8KE4GhSFzl2213CSAzzN1zv2G4zm5944oCAB3VDlHhNkzQDzZcRzUzyzzPPRDr3zXzzJFW7f8bt1zzKz",
   "ChDz62v39zzkay2AH6B4zzWu4tzXZW5jz4LX53dLF1cP43hhzzozY3wK4zBC7OT1Zc4466ECeLzazFzX4zfzB2DzzS",
   "zZbzzkvbBb9zd1oz0NzCd2Sz5P5zzM5OB6zzz3v1G75CBGB44KCe944664DhtVrQMzzWOzCCEeVz11KF89zcfzuLz9",
   "JoIDzxIzXizzJPzX2zzECWz9zEzIRc65zzB1224zvVwaGLNNmlzU3zz2Uez7zBBzPF8OazzQZzzzz29CzziWBZtzDz",
   "szU2FUyhzyalzz83ZiPJgWPw4D9ANzF4lz9C44615zzkKkizz0nzihbze7zDthy4BzYaz04AzVzzVb2zzzo5S1qUgz",
   "mz8zzTzCzXLCgzHzYS922137H2GTRzo2zc4zzN444z1DyA4zMz4aNzCz8BaGBQM5v5C549z7zy6dgzzzfBw6y7zvzz",
   "DAAzu9zYEZ11Az3zg1c116z88lbtzP21GyzsaMzZH1jzOzDzBYrFM7ni44661T1ARD1nxfZ9zzGQMuSH3zL3IzK446",
   "67Bj2DtNzG6NzAzSzz5V4466s44156VbqE3H14zzbMGNPO4AeEPzz6zhBZzzczzSzCz2JzG1Ly44642EB447C88zHz",
   "zzzQ6GyJzzzQJTzz8bAOz4R6zBnJas3PDzI13466I664zq7zHH46r6zz6TK3JCzwz59ET5GfLz346446z21224zC6b",
   "FhCLzzizQAU5zEGQzzoazHhz6CbzO9yYpFcPGZPzbzV44642G4zzj44651g3E9DzDQ4QzA2vZzozA8sF94zbziaIIs",
   "BzHuQzzzzzv3m8CAzzsSfzi9433GWxzA5apCzjzzz5zzGzd6zAF44246z61B21CI1zzVzD4KX5zAWz3nv1111z9865",
   "JzEozz6ozz44RHzlp4466P44zzYzBP466zCa4be44H4weZPFqMJzONOU7zLC4665uWAzzmzN4466zez4zzzbzTz2Yz",
   "B6D2xM2cN9BzS3zMzONEL2eIzbOz01111111111111111111111111D8uSJD7zAVzNebzHeaz7vL1y2D848BnHDzQq",
   "zPzzz2zpzdzT4dRz7zCzz0UzzQz4JQcz299TRIQj7Czjz84zUzG1a31464rz1Nl9zO446sOFzzu3PzD3DwI5Q2Sa5C",
   "zQ9AzrzCzJuazJ84zr1pOzz3zzzzz3zz3C2AzX4QRiZQIyz2ID8CIzz1zIXA1224y1zzQlzF8YAiuMKIDdz3z6RzYz",
   "G44czzzt1d2k44HCBiEKzGzE8CzzG5zz8zzzsrOEzzlXzzzPPmOfX81lXZb7PNPzzW5M1zzvt2ECMf3oUVzX46Tez7",
   "7taOzGozzCGzn9z2UzzalC3lzzSEncB3L61iszO4zgizz4L9NEC7vhaU224zIfDzeD96SzzIwDzzzKR2LzA4466COj",
   "8lWb7WrC345161SCWRzrMFzaLDK5z2zzUzGazFEzJzRpAc2B8z7jg7qYHDAd6o9276zOR3iFv34CzFLzXzzzRpIzA4",
   "F9sD88EJf3446DX2GzAOzdzeCwKzz1aQmz2UIYNKzWzuo43kzhm6OVzAnd5FzfF61Wz9zz7zxC138z2P2sXIPJdzzz",
   "z8JL1zzCTVA4ED18V8CO53SE1kzErzzBSvzfbzz1mzMzpzADtA5kzzHRhszzzRVR132375zTzzfKFzQbShXmAB96AZ",
   "zMSzfXrzAEF4ze6u7IPLzLzBz3zMi2Pk448FpXz16OJV5ugzCzzez3141KJj4E64zuz6446648NgnAzUG944UqzFbc",
   "72SiJqVBHU1zzGzNYKz2MRFsz4zBM16Jk8664znzzH8z32FKN61DQI7M6JzzD7zrxdzRVzHzzHG9HM1ijOq44Aw446",
   "6rvV2BB6QbHkkHBVFzJD4t2zDVHHHM2zgywHP6zfT8zdK81Rl2114z1z02419HKzrPAERKKr4471NzzaaA8zDz4A6z",
   "Cz4yGrULOPVzOfu76K2fhBza74GzDzBHK78K1F7TztiKRzZMKBz5eKhESxiNCLa3zjMJ1bz9KfLnBzdFzN44516BFB",
   "GzzKznzMI1z8IAo6K34XKz94iAPzQ58Dq835zzuHR14dZv6z4R111COzAzG4z9zz4zDzYz1COXsAW18zEziF6z8Rzp",
   "V44nzn9WB4462sXF3gK7zzGzzizWzRv16122fPmzLV8GhhC811111111111kpFzUTKzzzv7F6XzzIzbz35KzzC1221",
   "121111211112121z4Czzz74SZdTtNZxzVh256S1Faz65z3j1zKz8CIV7441zzzY4CYI5p46639QDz2DzUhKdCieAuE",
   "zdU7Yz8cJFhzWT3CGzB4CZzz3ltzqVNz52tXEKVzzVz7FOk7EF4kiQOz6xzzfCW8CX5zIzAIAzwzJI4415CaA4CIEb",
   "47zX5zzz1CZ8zzECEzznjNAzCQC9FzzFZFNpx9V4j1z6G4ET3CzQ6zBUzlF44MZk8kIzdzzeMf9zDzOzu3z6zUP1zc",
   "zzdtzl4466az4MZ3j3zNkidDcTI8LD7AzzZR235231115zVzJ4bI5zIMzVDJzgorCzGzwzKJN5Wze6QFzzPXKCzO46",
   "6QNeFs4zdJ1OKz1MrQKBH6Ch1Z51369czSg81116PzI3zzBZzbzlXiPgPA3zoyDEB9ANzOz93UDNgCl4z0kNzf446U",
   "RzGWQ944MBTo7zzEzGLBIzJgzJMAWz2S17hcGzezz69NzeATdQk6WzLK4466ciBz4CQA3AJz8Am3zVzCzz0PCzzzJ1",
   "224Is4f11wz0454zzp4BHqPBzzu31IzjjqO8zJEz5O4121CayzW2BwcBCu1U7zzQzzXD1HB6D2KJ91111111111111",
   "111111111111kfaKyQ22SSzzZ5446158R1rt6pz8cBOzF4WAOx66EskmzBeBXzTAzRzEzbtAz55I9nqoK2zzzzzM1z",
   "zbWhbz19nR9CC85i7pz3OE5Lzzzkz7K4L1zGM1dzb7vWV1c8SzQ6Q31zcXsMD1111471Pz8e6VeiJ1212221111111",
   "1113Ozjnz4f619SOWinCz5yzzgzzsO55tkzJP6cVP4z96vlHNC11KghCSz13z0DZzNAzzkz0zzdAzSH3nz31XzorIQ",
   "zzC224zrzjMzhKBzVF4ZLqz51111Lq6Z9TzSzQP9XhAl1KSNGmzB7kkLr3KzcDHzw2zY921KzzylzzOzp7ZnOeJzBP",
   "3p13446hzzRzzKEEzphzz626YzTDFuUIK2CsR4zPA4464Cz3cKzSyEA7B13zgzSAzb6EzhzzzaG5sHeAGmbByzNzCZ",
   "22131CKhFQ11111111RS8AzE6Pk7782oaSz6466ZEzBz5HUIAY9o44B7NzS7zzKzzW1zlAfBMzl3W8R3zaqrih4Fb4",
   "45HdG679zPNnz4ICZ3zzzz0HTz8zCM17C34CzzUzczAzZBAY111111r62C8lj3IzAQZBWR7CccM4zFLzz3a7zN2cM4",
   "Wzh6dOou1111118zczzzFEWBzLH7ZN944662446G18zq684z48GSYWbV66YU544zUgh111111XN4tuB44zzEHzKF3z",
   "HO6zz3z88zzIzzzVzpP111111Az1UihXCLzSIzM9ozqb11111112PTNzznEzzD9P4z9Y84zWENz76UCSzN1RBFIBzz",
   "74E8GzG11111111aSb8kKQVj44CmRzlzTQIbzzZUkMzg94c3FMEzZV11111111zfz1C9111111111R36zzBiGR5Fy7",
   "zz2zJzAKzu7gSOjJL2HzQ11111111Nzo7E1T1111111115zzr511111CzzP71zV4462fz6zJB431TTZzG5maMzX111",
   "111z4AAzCT111111111N7zTrC111111111z9c7ecbUPpT52944E111L53gzMI7x247PIzFBBNIE11111111KvzYzPV",
   "zT111111111N3bBzo111111111W1z88zFiJb7dzp1A5446IIz8zJ11111111lz4IRS1111111117g8Q134zzv431ze",
   "111111111bzzQ11Yzz0dgzzdPn1111111XLVzV9111111111sT8p8784G111111111zzz55zRbz0111111I1111111",
   "1zA1111111111111111111111111zPzCQ8zA1yL11111111z6zfQ7F17Cz3z5C111111111e43zX9Z111111111ez9",
   "4BzE2z5zzLC7z3rPh3BU111111113z7zr11111tzq1zq4AEzC111111111NIdEFwI111111111EeCZcACoUnqz08Hb",
   "11111111gj8VeJ111111111Ezz9UDSzo466EDNzzcK1111244A111f3zfL17zRzGzh2111111111SF6CaZRQ111111",
   "111tzz8111111111AezOAzCzH8UV5S5111111Ez0zzf2ELS9wYe111111117Lz7zFD111111111zzACY7111111111",
   "z1aFPl111111111H26HG8z3FYzzJoEgOzzzh6aXMzI11111111151622zJ79FjD11112E2213211111111159zsQ11",
   "11211p7zaV111111111Oqz8ZXzyzPRzzz03C121113111111121111116SO9zJa111111111naBzD4A64zzAdzBGzp",
   "81111zxY1HzC2BzTzzzQzzQV3C5UyB1111111117Sv4BMc7B422zgzzkWUyWzm32n3z0Lz6CzxUzzz3o3B44zK1111",
   "11111zW3sRzWuzVrzUb2244bzzBvIK6OMZ7RKPbqT1224jzzzEN111111111zZzz0dxAi2a1111111111111111111",
   "111111NzFm3rG314SdCz48Ep126MbBegzrIZzzq5Ea111111111zZUjE446NzLMzjzHO5A4zA9444664n2F9zzkzXC",
   "4zzajxz8zSzmzzzzzGAwFz3z52c7444T5zD22266AzB6zKzPRmzVaz3hzHztzzQzArJC9z0ih9BzFzZz85JzFzjzXi",
   "U44zz11xGFz7J2v5BE44o11PrUoQ3dM4zOz98ECDSVGzVC2213LKC94466H8HEzEozzzD442Q8A3JBWS3zsezG1111",
   "zqF34hezzL4F11111111Y4zK4zCzJ4Z7zjzA2zzyAB13GEzkHzSazHb4ez37zHGo86x111111111AGNbZzR3XmmHR1",
   "7CTzQ11GHz7AzB11Pf5zN8AzAznzzJ7zzzZ6111111111k5HzWz2GfFzSzNr1AJ28gRzGI53I8ezPf6zfOzzJ7KIGA",
   "dbz0B44711zzoDBpCZHPu6zV2c4zzzG1zNmoK9z76SDNZPqrFCzLrfz9zE6zPcDZz0wzzkzRFzczzG1224zjkaxiJa",
   "zXD321Izzzl5ClxzIzjzzE144VQb1z9z9zzzzz6zS1oz025Dh121123jDzVae4ACk8zo5z6B431hez8V8DEFfz2MFz",
   "d1zOzBzoz06WdN2rzrmAH9U18B1CNNq3gzzlw27atzz5KxnmCG9zzzz7eza8CqRSCb6hWYznIKDPT7zZH9EX2zLzV2",
   "24z6z0N14666dzzQzb44zzzMqRZzB94221146zzAz0zkT2111111BzASz3pzkpZ1g2ZfzzGzzCuzb7Kj7MLn6zd111",
   "1111B6JVbIQDzz1zVQzvz26OE14e3zi3zWAK2z6zUX4Z4vi111111WFAaOz09zzLzCzEmzzzfc2ehLz0zz5zzu6zA5",
   "XYZU121GCA8Czl44C32zzFzkWzzfAEzUzYzzuKOpzJzrT6WkKER9kv9Ez2zNzA78jOzz1zi37HADzCLzkWEa1FiN5x",
   "7aZzlA3bLJzGzY1Tzfz9z0OL3rRdzz3J6WIxUez91C1224Kg86zzFzz1A9d2OQ46511zNEzzlzJlz6T6E9GCDB1LL2",
   "zfIRTKVz8zKrazzzYzL3zUOO2ezAzGaV1zzp1LfFzz1zzAzzR1VzzzA1l5JzM6i9nzxzb66z7oCLb6PzzZezzz4T7z",
   "X6zvyz2mzO7rzUG1zzLz8uj2TFzzzz8aNbjrNAS22467115E7NzzPYudRX132266zszzz42uzjllapsbLXS6zGtzL1",
   "Az0h4zjzzGL7C1zzzDXQX2EPJR4aX13zzUG9GJrI5zrxVzRNzMfOazByz461zLjE89zGzC5zJlzt5Txz5l74466zY7",
   "Jzz79zEcZ4GzzHUFM19zezNc5z0F6zzpOzbzz6FCdXz57Nz49zAzNCsSzzz11X9196LX46bNzx4121211111112111",
   "112122MBpzzFbzPVRTzBzOzs2zNEIAI8AzpzRa4446zzCzYHaFTXH7EAQ7zMzv7654466q7scjEz0KYziSC22mzYtj",
   "YEP8E72Kvzz7OJjKzZ9E22466zXF59XzzzPMzLzEizRGzzKzP956P32zQzMQzz0N8gz9CzQ4z1QzHsUz9Pzdjszf11",
   "11111111111111111111111Va44644zz4VzMRVzBD3rNzazAAozUjWnBYzSB121231CzzVzzti9z6u1z18mLb2g7D2",
   "zMzFRz0BzlX6WEBAHjelQd2DUzp4zOa4z5zzf9zFl43166zzIzEO6QHSfz2zL8CzzUz7zyzK5zzAzz4p9Iz4BqpQrY",
   "5z7zb321zEzSDzaA1SzRzQ37H3Kc5YAznAzzZFVor61141zFnzZ4HzuzceOUBaCQzHzYdFvR4DeTzzs6zzzG11Gz4z",
   "CzzzJY2zz1SEa2OVgJzze1Ozg6O366CMEVLz8GzzP39mzowz92zHZDARjzIzz02vNf8zzpg4zS18621113112z5qn1",
   "bnOz1d18RIZ3B51GzBSZjhB6zzXgdzzHzPlAPzFOTJ11112zBmzLLABUoMAQs8Uczz48UhIz1zR8XFKCzNB1iMAX6Z",
   "Izz4Ax2411134PbpzBOYmD8RM74z1BazySJLWR8BtQzzzzzzz7zY5Cq212211z1aQjTj5d78c2zSHoRuGP9ij1GHE2",
   "2zBzXzKzzzR5zKL92Iz81111Dm1346XHya7zzXDzPzp9PNEzqXc44z6UzDz66zBJ4D11111111ZW3N8eCzzzBi46zP",
   "s4LJ4zRdTzzzEzzzSzz8IRE8kMG1231k8mDmzz7u1Hzz3p41222251BWVKzlSD6GYzzzzFJC8zGWroTb11112111OY",
   "6zSph8MIwz6AizvOz54zQKzCPcFA314AwzlCzG1Uz0Y25PFY13311zeJIzG19E31q4466312U96z87zz94J217411z",
   "V3r44zz1zzr1k6czIhC2466f5zH11311111GWzizH86Eci6cCHAzOKb4121A122TztU1zzAzzXFB11zFfgz87DzFGE",
   "12111111WzLEPSUrzG6FlS2QzzQ1111111111111111111111111Pziz7zJkzuMOzOS4KG8wCSWB714112z5AzGX81",
   "1111U3D821231zSnJ8426vN9DEmNDYbTBII9WLzP7R1zoz9fKzzDCz3571212111111111ac6FhzzvBHzzYz9ThhU6",
   "e7HfGzSRzzjpm59DAfkK4cH113111Gzw4FSzzjG79Izi8zB9zzBLBz8zz6uj111111ojzz1AzRDzALzqYQR66zdBHJ",
   "ASzDv1721DFzYzJzZ9Lz0zIzz2zWyzo8cAXAz2JczpOo3E9Tz6IUAJ3zzEADh1EbzcHdh1izO5AzzQzzfzS5zRNzL7",
   "rnD111115zzfEzzP9GO5mBqzSzzAL1GzOziBBG4zXdXMi39F11YaSxFVG72Pd857F6zgMzI1sXz1zMzDz4h6IzP2v7",
   "d8zUzjI8JaWSprsz73Wthzzazz8KTzfPUIzbc92U7Gd67z9111GHzzzzzzmSscnzPB3rzzz0ZBNuIEAM7zKTLzJ466",
   "mI2zzzHRKz7zU6UzzZ4YzzXQzzAsLB19hCjzfNzaOMS1j6zkazH5p8tmfRRz768CFNzSJ3s1zzrt4zszz6kh5e4qAC",
   "xFHzHyORzzKvBzzOPDPezzA13112zzjLaZ31zGo8zqVzzzegzTz4O5dz4z564466x1zuCOTCl224zz4czvz2zaBP6T",
   "i7ztzBmfAuzL3DznzIVzHHr8A22466z4zz99OzBpzA8TGEJgOAQwW824zr87zzzz3AFz1RYzFFmN4z8Zzz3598Ux4c",
   "XZ44cCgz3bzzzzz97zBYdbzFZJzzRA2IQQz1VeGz3z3NkziAFNCGaL8RU2G6W9zOgzKYcoz18z5PzIzGAHj44JzB11",
   "11111111111111111111111UzczzzzV61Dz857k7zVQKz3zWZVz4zHtkzPBz1zEbvc87zF9mzO7GlAHzyMarzj5DP5",
   "N8g2uA6zz6Xc443216IjLRSaiCvY1z9zD7zAJ4zzzz9zDGzzz7ewzaAGczLDF43LYzGl6446UDE6nz9zS9bhz94zH6",
   "a8AZyzz7zMzfzz0zzz497zz2zEPo28F8azw1zEpB46Bt2M42zJ4zAZGzeYzc32vlGzhqH9zzzYn3113Y18bWzpFHz0",
   "zU4ePCzLzUzw4czz9RUzAz9z6zz9OCr1c3Pzmz3a1EOzdzzZ1yD9Nzzzxz1GznmNzJzFtQ3P2722IJnKzb61111112",
   "11111111111111111z0Az7Ozgzzz7T7Zm3Azd4466Gz22zv3zzNzPtSvzF44VfFz34kUQf11111111111111111111",
   "11111zzPz8zzrFzu9zvCJzz0zW4A8UJ65zDZ11111111J2zzSv466A93nDiJ3oiE357QGTDV2LsQczj3zXY3bM8KzY",
   "17OHvzFzuaBF5sVI9zFzzG8bEIcEkANj5XxzzvBhE1I3kzE16zY2DazUNzzYtAFUz4zrN2zKKzl6l7zzzqEC2X3tWz",
   "ozKYzK1fzRQz3zzLAzHzGEb721111111111111111111111111Y73AHjJzz7zTiA7fzdQqvQnX5zz7tBo1zNzqg4A1",
   "z5M9zz08NBzA6DTzpaBnz2zz0HzjCHy31224zzJg3LBMW1L111zzH7zUnzzzNKgMl5yM8zA9pz8rzzzxzzk5OV11Z9",
   "7E3ztz5EV9C6z0irPzzr8z1224zKKWV1453HzBN3ZhO884zyKzz71ALK644155dhWjzJzzzZvB4X4AuLmq8AFBnhFR",
   "zVzOCIzMRLbM1a21zRzzUL8Ce5ozgb61zqYHBJDPz3szI6zMfU6J224pLCvhePe9B8J4gGKHzzhXNqzzzUGA8KzWw4",
   "484zB1zK9zy6ySzD8ChzzJzUDHDfTbHMhk2PEZSTwLzk224Dtz4S3zsIZuIZzzJE1111111121111121111112ezEz",
   "WzNzzezIzppACYiHPQ2J9h611J72jNEzqzLzTaGzNO2zUBGzzK838c3zDQ513466Iz0zz0lz5MHeeU8Cczz6GzzSmz",
   "o68tzzzSL9MaVzlalj9Lz134qHzVbCzzzdFJzbzzz5ozdFw6CzLzzzzxhXzn9nJ9zzfN5Ff1z0V5uzzzzcz8C87zGz",
   "F9TKr33Brd8CmbGD7OzuA1111111111111111111111111Fdy1zNzaMysFlG6WDzV6GzdzAUtV4466eUBy3zlVz88z",
   "T8UF4cafzzY9Nzzd1gCzUzzkUzzYBCzF98z8LOzb4zzz2FaCz6zrTE5jzzR14zbgSVwOD7kuezR3HQ8wzO9Zz02LbM",
   "5zzziz7Dz0zFFgfogzYC1zzzmBr4azjSzUZI9zzC3191UYQzzzRD4lkU3HzzIKLj31jEXGI5zzahz9z3UG3zSUzmod",
   "z5bASVQmRzZzF78fz79JQzzAwzo12Ekz4P63zy61Czz6z0mH41366eMT1aA6zhHXyz3IJVXzzzzzez0z7f45515wYz",
   "3z07FYC8z4zzzznVzC111HzzzWmJFl6z5Euzpn4CRAyDSBK2L4mGzzzOzBQF6ezzvwLzz98zzze2AHzGRMHGcYIGcp",
   "BlziIrzzz3a2x4z4eLmYtBFKz19paFbN9vbCYzzKkpoO8B2W9zN8HC7D1zcz8zXlz5brrixti12lC4zj72z9zATw41",
   "8Ng44262Xz8Aacfx4MzVSe4RDVItikD5zzzKNIHFzjz422ERCBUD3zG2AW7KzzczBzefzh1zzFQM7p2Wtzz1z69GzX",
   "ztzz5x5CDz8zZZIfRzazz6TCzp6z7iCazzOD6D52j2jPMbI3Hj9zzJ6CK1epWz5RG51J2wHFBzzLz0zPlzizzT44Kz",
   "fezzE4rRKlldUzZvLKkRAszdzzM5z0aFRz9zQz4h79z2TdnzDQE9OzR1zbD3zzLk4yq8rP3z2T44TzzzWzCzGhekz7",
   "11QEVB1z9mLpUY84aGzpS63r7yOzzzc2Tz1MzzFIb116AXObNB16O6zWT2Q2k3GuDzzJuzzUestAEzn9zIvzLW8D7z",
   "KLzFiANvK5K6Aq4HC1112432M4Dl2huPzzm1CzBZz6111111111811111Qze8nzzEZ9al4466FMJFziuQAHSzczz52",
   "Dt7q5e6Oy13zMMg111111111811111zzm2lzCS66YEtpzFzDCEVz81111QHzTXEz3zzZzz7VCQAYC1111111118111",
   "11hoHTzfrLzZ7Mkazz1TcHDMjMGZ1OmzzFzzCLzzq111111111811111kQwzE64GznB314E11111KJOFzIJ775hKBz",
   "z13ZOL5d9RLfFPmii6zDHzzS2111111111811111Qz661zzCzPJ3cSzHJzczzQXY6Arz6xzIze7zzk6WE111111111",
   "811111A3Xz1DOz9unLGnz96z2Rt8zbTlA44D4pJzzzzbe111111zzw111111111811111z3YOAHz661141CLZcr5KP",
   "e8zAzz5RwxQbw6vT11111119zf2Bz1zSl4D51GC111111111811111d5nO2BzPBMzABzzS5i8MFzzbWhbB242cqzSU",
   "8zz3zU6oz61111111118111114zMziD97zb13lztUzzP9mlb5zsV9f8jz5Pzogz5O1S111111111811111zQbzDD58",
   "fjAW441MCCzIkz24BzKzSTzMGDvLzzMz0g1oLA9zeM3SVD47lz4Amls4pcJzVzzA2BSGzPxzMzuPzpzFpzEzzXqzf3",
   "WxJzzzzy4f2ABzSz3zv1Ki3G7RC5zzPO3zTypGtzNF6zBzb4zCUA466G1z7BYV2z5K2VsHsQSzpGGzz0w2zA6zqV17",
   "z3z3h518Tz29az4zXKL453yMB44mK7FNFuK5JzUa9qQSWczbzqBo3Z5AzMzzWLzZcy15lSzVqN6YzzCzIE72Fz4zRq",
   "OzTDa8CzxD2V5Y4CzzzWT2zz8oSV9zuzTzJDD5z7431zmVLdxMZx4zTFzV2NzzD6zz6cNzlz4NYzZKF42CHM5z6GzB",
   "4v111111111811111aw9zMT3DVwKMbk111111111811111zXzbE5CS4zLN4PyznzWgdbz9z2p111111111811111z7",
   "9MzML8hGzVn5EF111111111811111Q6zz61zXDLzE5LzGC9zz3z4eHE72zzkDF111111111811111zdFB8d1aE41z0",
   "26zrX111111111811111ArzIzuS1DEb44DSS2vzSA7kz7PBuJ8qnQ111111111811111zRzzD2DHmHzFKMHWxP8642",
   "zA9iz6z9Gfkz9z89BHz8zzEzO1111111113511111zOIzNS3z3VOzaz6emAUCMcKbPRzKfInSzYz593GHzABBzK446",
   "11111111181AzzzWzcezzhz3au2T58jB1VzzI25Zm7n4466b8cE72zzzV5KHHzCjgdNhkz4lZdzM29cFF255uzfW6z",
   "bzGAzAb32JMD1B44v8FWcR55t59ExZzIzI9YlD8zzVPzxUzzpz9ZP3D71z0tSl78Hz8DzPGNzzzPzY952SSz7K32Fw",
   "4VTpa1224zz6zz8E446222sRNzzEzkzCLW3x8534gzzKzC1lCfzL6ziBUhHIx6QFsmdq2E72OzLX1zzzTNwfzzz611",
   "1111111811111znzef2zH11111122111121111136t5BzZwRI4466L3va8JC711aIzE2THLQ8GzOz64zzzH1111111",
   "11811111zz0MzodL5bx1111111zWPzU4466K4466hE72tYp514466aHR6ENGA1qNC1112211111121111111111AME",
   "3m11111zz83111111111811111KYJ6hDzm64cu426fAzpzA8U42266Q8lZ8664R8zzzszcDMz9zFdc111111111811",
   "111sz7bhzqkaz1z4xzt19Z3L8CYJ5BP25vVzDzPzRb51WM6466z844111111111811111ezLPj3NzX3EzQDpz1zIB4",
   "4667caZ3566NFjbDEgS4zu1u73EB6znpa111111111811111zq9aKazez2cpzhzP8VKHZ875SzzdoJwCYTJQ511111",
   "11111111111111111111bzzQ8sNsdIz68k9zXLzlzQ44633tQ7zMHj17TX778zzdAN78zwzg6zEsM8R6z91I9zg1R3",
   "qKH1CnzA5A43166zME72198zmzB3HzzW1ThmEzIz99sBzBf88zCkL3WLyGz4CzDF1zBGX38372y1224zzzVT2T5az4",
   "GKSzzcfz5HA1zzPO2Jz8EPH5w6jdGX29iatO3zsCZzazPvgIECRZzz7Uf4Hg3zz5AA541366ZkrzZ4zlBKhzEW1zzK",
   "dzzQSzzqSAg5Ek5a5bBzzwHK1zbJzP4466Ov6bDQzy1M42CDUgzbW2zEVa2vIEUzz6z9zzRzz544bz6zcV3Hz8224u",
   "i7O111111111811111z3h5CJztSPzu6hABNz2zfQzU33UzHz6OzP44336hzz8zaY2111111111811111vSCUDzzbpJ",
   "RJssKz19Tz4pLGze6zSlu22466Q61JaSz7c7B445r111111111811111mnzz0IWzzzzz72zlzzzzzzpUj111D4c8d4",
   "4P2yGM1111111118111111QvG8zzQzC8CClaPbjYzz2z9zCzh8344EzTzH55AhBzv44XV1111111118111116zz0Vq",
   "zH4466L1DQ3JE11111111111111111111111116cz8VPm6JDlMe1111zzT1H4DMDzkD1111119443zzVckF3111111",
   "1118111113z1zMGAzGvzzO8t85vzh2WCzN9zz548dzbZ11111RLyzYGSS111111111811111zBCz0JzCxzzzzbBGCz",
   "5Zz2zZBPzzbz911111jzuzJ28CB111111111811111zGpzO1AzzYozzJ28zRlozzozMNCgBY111z2czMP44RV11111",
   "11118111115E11111zU5Kz39zzi8azUFvFLzRzzwzkNzz211p24RNKRzTV111111111811111zizJ44SCzi8zhE3zd",
   "44ZR9E2dVuIAnI1EbKC44zvQQ1652zzfJ1mi44Muozd1Yg2vqU1111111118111112zozrFxCmw2zX55zzW2SJrzzC",
   "zzzMz9zGkLzM4111111111811111fHeFzAzzNAzhzSGzzAkH5zz0I44661U4z7FeV93zzW63zwU111111111811111",
   "9zzzCzqf6L8B2zhQGz1zzzw4A2cE5fzEz4zXuCHLuu1111111117111111zd44JiK44WQuzq42Xdzz4zT28zTtC126",
   "P2ZzzzL6z0CJ4Pz0wD111111111811111GCxT2zPLiL3qSc4zqzzFzzzKzZF6ckQzKm5idbzB1111111115311111z",
   "z5gCGDFY4zNzWd5D21224UElvZzUDtzCz74A613zzaAzzzE1e111111111811111zkJH7BKz54z0wpzz4vfzOP8n7F",
   "63PtGF111111111811111zxzHO5z8FulV111111111811111z4zTzazz364466tzzOzzIXzDb224RV111111111811",
   "111EzRVzK2JCzSUlW111111111811111EL3DMGaoAzbE5S6ytzz2zCGX1a4zzS44661EV111111111811111NHdOcV",
   "zzZNzW111111111811111zFb42zYzuGUz9g1A3146Gzz9mRabBzgV11111MJ55I2zzm9zzz1Tp368K9VUwp61MKvzK",
   "cPzHczzW68ze7UHnznhzRzPqzMLUzz6ZEyzpzz1staRTjXHMzIz6WtzZiWzIIfagzozz2Qz8zzM1HzzzArHHzcnNlx",
   "6ctrzc3zoA6zP5445mz5zzzpuzMSC1111111111111111111111111loz3o3L9EgPC7z7nzLzxzzGzz3DP6zzT4468",
   "44iJr8c5z9iHl9BzCZ44nKE1JPzv1WoEzUBMZzBJ5j4WzzCeAzHfCjOzzzPrEMzpex6zaIz0TnzPzmzHzz7z0zzoR8",
   "sz1z6FVzzzzPXzAzWSAaOQezW111111111811111S8E4zzlyzzKr9zzKYzzzyH3zP5NzSzpzmLHX11111111126111",
   "11ebzJB2MzzRWCzuzivOVzIL4N87Mo4QT88hzzzsezW111111111811111KzI1224927DzzzMUzZJemzzItUzzL6ET",
   "5426IHz05z8zKz53oOG1111111118111118zz5atZ115zj83mzDEVzoogB5IKKkmhXJz3zGzU51513331Ch51143Lx",
   "1111111118111112zNtzrzJzEW6zf4AzzNz99N13zOzGFmGzJb7pKzzS7D11111111153111112N867EA3zGI466ML",
   "O3PI7hzzOLRzilXOzOBR4I5zeKV44516HzLzBUbRz4h21C5xJ224zzVzc3zWzJzzQg3zOLtaIfVdEOzbHz71ZzzzCz",
   "s4zeR3CcPSz69zI1WnRj8CzzqO111111z5zHBOzzX5IzoJzyzz0z7zKNjRzIfBX7zzY1iVHp9Y442c1FShh6ObHz0z",
   "WNBzNPfrxz8l99zzZA7BUd9XW3ezKzzhzB3CGKQt1zYzLk2zdziozt4zt2rmzfSAAzXWzzdmza7hzV3HIHz5P5zzBz",
   "ezzz0SX6ZPzDzJOVGg744zGzlzz0zzezQZ3nSzjzJATzMkK1LQzfAz2zzjzUJK11111z5pzLaOzCAzLezzPzHzzBzz",
   "7A1Jhzzg89HRjBStmCW4zzBbz0Ka494AVrP2AMz6PzzjzzzzLzGK5z3KoU2m1OakFzqJ64Lj44667zFEq9cH6zK111",
   "BzpZzSKjYTkzEzBZ5WnMzzF1ziFzPQozjC1111qsJzzQTzzzDzD5SMPkzzA8CWzzmzzMn1111Rze44PH1zz92LzS3z",
   "u11317zO4n7zzF9zfXLM7DT5F9fzg9oHoU111111111TzzbJ35VzP3811311MSgzzNU71lczGK1lDzzKUe31111111",
   "AmzOznRz3111111111iBz6zWzz1huzzF3JXz7DX81C2g6m93Kz1zdKAuzYE4Cjzz01111111119zSz2nNzckkiz3Dz",
   "4z2H617O4466yPaN7zVN8bzzzzrzH11111111154zezY5ABze8qNV1QS111111t931541nMhztsTSz194eFG4izPzg",
   "U13IRLP111111111LO7hDz8H2EOzC11111111896FzzJzFZU11111111gz05I9Ogz31PhzIz2zOqSzzCB141111111",
   "11zzzFC665G51vhUorBdg672gHz3CEW4T5zDJZzbMKzzzzRzO211111111182PtbzEHdzYNB38GTWw5xIz1PGzTCz4",
   "Xzzz5z9446612rzH5zc111111111Oz2zWFF1zq8FFBgFzzE61141413mUz3fI8MFQfb7DzOE8zz9z5KMXQ6113z011",
   "1111111zzzD446zQaSQYCzWDU51fjrJHwzMzAEQ519zZe8zUjOQ94APC72qizzJWzA8Bzzzz049znhfPSGqzLBBmxD",
   "JT44Fmw12Jzzzro3N4A6zQ44669G52BBsbuoWzBtCPccHzU53Cz5GzH44Tx1bzzxPHPPQX4466XzD12G192JdE5BGn",
   "DzE1mzz4dczGzzSLUzOyehxeYzIzD44662VGzE1821zfzz1Z7zizUED5PyEndYJzzz6dzzzpVx43166XA6Sz7Pjvz7",
   "JZ8233r6GxnrWzzWMzzzAzK45Szmz5Oz29PzvMld5zV4IREX2zzF269KIz32zADaOzt8zo6GPzg431666zFPNl4313",
   "315zPJKNzzVzPHSNz95z2zzzzRzJzPp3zDzYCcRzW44156nzE69AtYF5zzzrY9TP245111111111KkzazzOVxBzbzz",
   "ztz54466XKz3K7Wt6zxV459zEz3m9111111111KRezz3BS13466h111111111AKIbJ4AzFn1XTzlV4r2zzzzdzK1Xt",
   "CzzF5111111111KMT7zBOTzMS1111HB44zz0zzcoXu5DJ42113315zIWD15411721zY13AAzIz4aIZq2f9i4A2B6RP",
   "yB3WS1zRWkXqFu6Fzz59zH4466LzMW1A5fzEf6XYzFzFn1lDES51A2zzGzz6oKg97zz1zqbl54466Hzk15516211zJ",
   "6BzoqzzDGaanz8zzu1111zTK671z1D5KVPkbdU49NQ4466iMo7157631zDOzzbgEWqLTKf8zAiNc2izz36zzScTz81",
   "zkA442113315K2zc68AFGUzhwzQ9z58tKWQ4NIqzozdzsIGPFzyqz1X191zFi23255131Hf8zz52Ff1G7kIB431qzT",
   "Cizzb21zS13422kzKcazTEQMlSU44336IOzq3mzL48uABRCzSU7GW3t9MMGV1Ti3zLz6pgbWzz3z2zFB5FUz8AT3a4",
   "cCKhzCCmzW86z3C7zH53Jzzz62gKe2Fn111111111N648zX5zCe723vN4466oNx94GiiGIjSzzztOzG7z39zVBzCaB",
   "B7bH11111111zzZzQZz54466uKkISzL8CZW3z1zzvCQtR62YfJ7z3L2zOzQ111111111zH91Bx6zSZNG6C43133153",
   "tzOIJINT2z3zAzEnNzkVaZdtMFJp7zm9111111111oGX4MDBjzTzD93nCzzWUz6zcz7T9Ozz8DLFIGDPzzc224SI6D",
   "d111111111H7z2s9GUvEDOf4466zz3azSz8zz744z44zzF5zPH53K2zzvzO51111111112dp8zFAzNBAB3e44246zf",
   "X11111Oz5v1j2R28zzzzzAzzKzzz9m111111111vzezSi2zzKb4EnSdOeACzkazWpxcs8j2oCzzIUH111111111MGC",
   "GzzzBzO4466zMxDPIe5431466Pz18CzzQZfzzDROzu1IWCDw2111111111111111111111111171111111116fJl1M",
   "DzzpN4211123114uYhzZL6ezqXA7zzz11zEhjzTl2857nHK6B1111111wzz19zzzjRzK33dVNzTzz4ERC121111111",
   "111112111111HwCz2R442zH1h9QzJ9Ez8zynIj1111111111111111111111111z5fzEU111111111BlzP4cpKzzHf",
   "1zEzaS6zz1zGLthEzNA431o11111111z34g4484km44664n11111111135z3N4nq9FzQzzzGzzizzz3wz1zz3L1111",
   "11111f7ab18Z6UzZ1111111114D3fHA1111111111111111111111111U5B4RMi4zEB44UUzGzzzQ12PzXzn864z5O",
   "2417zD11z5NS62wAASzC12111111fOH3YN6z5zBzzC1Z7h8Ck3o8zd8Dzg7EWgz9J41zzD3zzKzg5111111111544T",
   "2zhJzzPczs2vz1o4FbTzH6zHLz6z86czzzOtzP111111111lcJBzrK3874XzXdk8CVz1jzlWzKzH1EjY5X8zzzM9S9",
   "1l1111111111111111111111111S211111111154466zz1zzzzHT7zz4cV83MFzMGjiJPz6pIIz1zzEEAzzG111111",
   "111zX7rVAkZtz8zz1AzK5644mzNoFI2Wc4lMCzzzzmzHx11211111l919zLlzRz2446172ObPDmG1KCHzTzY828CH2",
   "zzkJn6Lz7HzAMzzs112111112HQHc5hz96zGzGX9zI5O6oy6CdJZNbzc7f1gWzsOSzm2BzIzOWIpzl5QucVVF11111",
   "1111y71zBzOzPlOHWz0zzZau6zH9CizzlzB674k8kz3F7g1fG111111111z51Yzzcf92zzzB3QkAG9FzLyz371zu61",
   "C3z16EBkzKzkzZ3N111111111m1dzszYH1Wz9JAMz4YzzzzY4bzD8N2zlMHRNzWhqOM91111111114KIP4nc44D5p2",
   "czCbaey5XlzzzazzQ2zSJzzf1qN224zh111111111KWzU1ixIkz4qA111111111811111CV8zx7z0zlc1zzmCzZffI",
   "asU6v446643111111111qstzxUbQQc1111111118111ziG3mDC45zzv3zzhGzxza5zCWY262a1111111112PezX3z0",
   "AzH6Tzcsbv9lP78aAz63dzzz9zzBzGzO1Dkf111111111z6z4zzU6L5WzAWGuSz9rE9VKzb4fLzORZz569KfzJDN52",
   "24zWB1111111112zaDzz0YW3268TJK45OaD5QIzCJzzzr4AsEhMoAmdPKFxQzaq111111111J8LEM2Kp12222V9SzE",
   "21aWP96YHDVRiL19ie4z1QHzOLSVz1bqLzzzC1znO3N7m4zzz9zqV3111111111ztzzqgUiIE7zIr8CWOzzzJE11D1",
   "B4zz0k4446VASACDX9tb18HIz5111111111z511z2IHzQ6zXQMzzZ1111111111111111111111111BzSzJzzz1ZI2",
   "z1z7zMzPJzn41111111118z9LzTtG13zzlzmbC5z3zF2z6F4DVz9e34EFT34zN441LzT31TbIPz6111111111zzz0z",
   "82zz3LCwC4d8Kz4Qzc5C2ztDzcWDHK446zvAz7gzn111111111dLV4zFFz94zUHztz31KOj3zzqqzzNkzzQRCgS9Bz",
   "c111111111z511zEYXg72zMD84zzzz5zVTzzz5L7NzR7BzDzz7RnzA111111111Vm87z9OZELhKJFFQzlRP3z66ruZ",
   "1NOYG4466djKFH8I7W4xSz4111111111111111112111EqzBN111111111hkDUazJ1111111111111111111111111",
   "HzLzzYhz5YzLAK4IpjzPPCzlO7Pzw2186VzI111111111zFzKzN9BuGUzjzzztzCE416gMzL124XkCqQz1kqzz9G11",
   "1111111P8111111111OePxRb1336zzxzk9AL9brr899ch1111111BIzkatzzlGpeLzU154FUKumzLCzz317K111111",
   "11azmAL17zCzzPzRzOpGzzzUpzzAA1aSzBzzZENXK111111111zzAUOJzzKVgAzzK8CHdNo3zZEz2OUyzAzzyzLzK7",
   "111111111Gzy3MzZ3FC6zRA4449zsAGI3S243124zB8C2eze11111111zdzwzzzSucm111111111zqnzRAXG4zlzPF",
   "488zQ7wbKrzDz7zzaz844642jzzFIf111111111Xw5Ez342j148UH2zm4466JzO61f8GmIbz4Sz5Iz2YQ44624zAjz",
   "qzA2zdH111111111q8z28DPzHzBz2eICz8k7zIzDrIqQzzUX6z55uJ9zmsn111111111czHzqPzzz8z03z6LthW1zz",
   "4K443366z3z3zz3CiOEtFS11u9M111111111zxzT141zzXzNr8B1zfi48PzzzNkzLFRq63z4446z6n9zL111111111",
   "NT1DzXDzzzzzU8X1354kzVmzze8jzWzAz3zzFf2z2111111111zjHIzJKzaQzVqsT1EY8ZOzM6DzzcfzzzIdzLzIPH",
   "43164HzGzz4zU1AIUEzZG4EH9UzTBz3zz2hL3z6VIoSMfzW466JJzbzzzzz2zdmE1Ma4U4CXzvyL4E3zzNvzCzzbWz",
   "przs44661UAzzJ4Lnyz1zzzz7zjzzzSICz1zzqzs1iGHLG6DezzzzCRzzzz15zKn3JBzzvBrDYz2BWSzNz55GjzBzz",
   "z9zAtERzzLY1z32hMzfAVzYbNkzBzazVz3z2431661zNB9z69z0dTdzBSKzzzjzw15Zzafz8zJJL7s8zZaGM445111",
   "11111111111111111111112xzK4IzJAMl7Fzz1h9x68zzR1IzYzzNST8PSee8VSsznzFI6zAEc231311121111641x",
   "P18zzEL1z5zkDzOzKzGzH4668fzQNFFzzzaGzCcz0jQN1qAbzzUzC7KT4466Uzhm2LzzkWTX8zVzSzRcdLczzsg74z",
   "2zkNQzW2aztzQTz8B8444r2z6zzk6J1111111111111111111111111E6a44661lzg53Ezz1XCz6zzzmzMJ756711D",
   "zZzM8ywz7vzMrgGI13411461zPN1111111111111111111111111H3Qzzz1Z446z3zXMa9eOA6FT5z8aEWdZSDkazQ",
   "teAzIa44661i57zz4bcMz0zTM25PI2dA4466e9GSzzuRzRgSYJ4zk9zizeHZ9SzX7IUJz5fOzzQzo1zDqKzXzTz6zt",
   "hIdJ85JS8zzzI19zOBA3zsGJDTzgzyW115fzBVxDzAETJVKzFSz0zzsCGAzEDzkz26zY58LzEzzmJ1DILzzNaz76kD",
   "7DmBzlazzz6zAEzzzzZ2zPj956VFzORzzODRt16jvSe6656PBz6jzvPII544661D6zCsVKzQzF1wF1111111111111",
   "111111111111z3zKY11nhzNftXAxx6QtiaIzzg4312DGtkJzRzrDzYhzzUz4zUXM2qAL1vWM6Mz62RXPdzM3zzZaQJ",
   "D3zg9uPF6Wea71EWzzTCz3EkzYlHY5cB4JeNwzFG5RVhjz0zBzU48zb5I8zF4XCzoHOJVCZu5z3HLE1SvB9S4zWmAM",
   "zzbD44661T6zzzA314516wYDdTPKBGLzzzzzxq24YAP6Em42IYQnzhA5Hh7zbzXBsE6zLjTzNzU7RzYqazWzc2zoTM",
   "c4XYz38za7744661pzc3zcz1CR79HzzzIGiP7YLzCzzQz4515g63fzl7uzXrGb1MIK8J79zf17671RlzSHznzOE214",
   "g9Xz4kzzRVN64vEeLAzGQzMXkSz9zfzjtzczIPzI6BZL2Aq7Jk5z9x4a64ADzPzzzST623LxN4zFzA58hYZ1zPPUzH",
   "dzzX8zllG2YqDdza17GPUz53ITsAzEb6LRuzjxLzNzBzAIEzizzzzW6EUXjjt84Fezz1zUUM7WuQ5BzzkRBV2gezQF",
   "TMzC7zpjeSPzzEzz9DBqRLo95zRgzB7RA17HL86lK81g38C211Qz6Y1Lwz6JzzGl821gzyIfYBrzDSzFzd7zMOzRzP",
   "z67hzzzLpGAzOz8zOzXzLfJD6hCizz24zraguJC34Gzzz76ezCjqjz8S5249eCzzAff3aHz9pFLATZNizzzXpCzzzz",
   "zI88C71TzHU5hzzDzh8Z7biDz7JRzzHMc72IKmz18JAzDBzrz45r9zzqY59mJcSaz48Gzz9P7zVT91FAeO1s6RC1zq",
   "vhzWUSCJ3mLzzzjhzzE2zY3u3a44CzsO1zOzA39zD51132434DCzMzzzzOzzzQY6G9xzTRxX6yGbZOG1p6A6TmiUaz",
   "z6bzz4zXIgzOzl2hkOzkzQqvFQGez5f8fI8zz8FzZ8zAEzpzUDzAgEOcfz182BAzRazzXl9zs2GzXZz5cezzz4UzrG",
   "z3z6SzFRmzV466BOzAeSNFrWzZBG8zzP46n2OajdLzkdqO8zrz3NSzEzYzzzVj7TzRIDYZzzz0zSOE3aQSz0G4669C",
   "gIuPZXpzzqzoAz2o9zzQnzBzzjuWZRCmUzNz0MBz9MBHWzHz7za4zuNzzzz6z37zLRzBez69zY1Czz7eKx4Jmezzez",
   "4zsuzCAzNQGzO5GzzPzM792XU7mzz0oEz6XlzzO2jF2zIQcPz0AzzA9K9C444664zNzdzc2szmzo8zVjfBwzzGC1Lz",
   "Z376AEe2XzzTzEzzzez7zsW8zz12uANi4zl72GziVc2zz1z05b6zz1zQLTzz3qYFzL3h5z97zzzN44667e7zr47tKL",
   "zFjUy7h65zzO26BpZPs8DuYJz6RzzzCzzJ2z45zHHzzzRzAEpLDI2zvPzznzVzDEJ9zBFfy8GAPzVHz7LB71111izz",
   "znBzBsQLG131111111126Fp8PCzN37768o83zBzzHUG7zQ9zEzGbMe6zzA2mW9iI1rNz38xuz9S446649zHzzz2ZKn",
   "4VbzyszI2zz4z6zzzLA4zzzGLzpLz6CV8izzURuGzz0zzMDKCzI6K3uNMnzCzzzdz5Q5NgWzU2zkJLzsZ4466z2PFz",
   "zK2hR4z5MLzQA1EzEIV5111zzTczzzc1111111111111111111111111EgK212Aqyz2zzlJiCm1628zezPz95Tzmz5",
   "bc387AIz8zH6z5cT3JzTzWQR11111111111111111111111111wORzk22z5RbyJrP5QhXr4lzBfQIdk8C2MBSYOQq9",
   "9WQ4466gzzX8jzzF121XS2FqzNkmjzHHE2LzgzOdz62S1111111113411111151Szzz8fSrgHFQkzo1121111z2Wz1",
   "D1MCazJzz42Cz5VzzzaW111111111811111dY1CET2zpzBzzzzqfNdzzHzF8F8G6B8zkzw1z1xzB11111111181111",
   "11111111111111111111111111g7t4zzzzZgM71Lz39TzB56eAzPzzzfn5zYRzzz1B111111111811111Hz0z7NfXb",
   "zaAnBzxEyzKOdCAjIz1I4zzzTtE3k5zeV111111111811111988zXCzzSMdjzBz7zAyHz55G2zGTzPzDpz3zz2zFL9",
   "k111111111811111z3VY1IBxW4LD17LPzDQ8z5CzEBBNzB2ZFzIvzzrzQPexzJNO1111111118111112z2y4mXFkCz",
   "GrhQzUHGVFNAGLGlgzzJztz6qFz1REQFXQ1111111116211111VzVsKzz3zzL3oJZtg6Bq15zK1Izg8mA8CqoMzKLz",
   "zPF111111111811111F4663zF4WkCW9zNzNz6lz7cr1Y1zqzUbzm1zNzI4466YTEv4466B111111111811111NzT3z",
   "BDzlp6VVPRNhd6RiBHHJhDVBr8Kq3146421zT44JzzjzPPPmC4NLeH951MIzi6DaKce75111111111811111hT114z",
   "7zOmzzNzzJc21131zZz8f3zWt7zFELox5zGz6zG1111111116211111zC1t11wCSznc2iiBII5zN1311111zZ4466z",
   "2Mz2zKi5Jnez0W5z11111CeRTID22111111111811111z0DW4JyvL8lS3zDzzL8P1123114lJdSzAETAAImrBSXTdg",
   "zdTETaM61111111111811111AzzBMGKpzzzzzAHJ1111145T6JzU68Nwl111111zzzCV44156Cz9Ldz871k1111111",
   "118111118azB7CzQaNzR2T3HY2b3xm95Uz2111111zFAzHUzWWhoE4Mzzzz9111111111811111zz1zsLzOUOzOX11",
   "1111P7Wj9866ZRzz5LOz6oAzL5z711111111ecTz6z2111111111811111A8tgKYz7GJlzoSY3z7sNlzMqzzA11111",
   "111162111116111111132Adz2AZO111111Cz6zzd1111111114411111zvkz5L8OBzozLIz13z9zl1EBE11111111z",
   "1zZ1111111112611111Fzzzqz4ccs111111111811111Jz5z3TtzPzH4466z7ZpN11111111LHd5sj41111111113z",
   "zX111111111811111Xzc466z4fhgzj111111111811111oKc44GkzzWYY11111111AApMb11146944P111111111z3",
   "zs6111111111I1FT64121219pC6111111111811111K2AnEQI6b96zejz5z0etKBdc11111111I84zQV512T111111",
   "111KMzS11HBK4111111111LJu69HHe111111111Ezz5H111111111811111CzzKXzFlzHCzI11111111zTCdBX1ezz",
   "0V111111111Ygu1QQ111111AO726zzH7z1BsX1111111118111111bBpqRzPK1111111Bz0NOz6111111111Iz48i2",
   "4214PVCvzz3Dz3kt3I111Kzb9zApzzzzQYzXLzL37Gw111111111AOAM1j1V97MP2Zvz3N3C111113zhL5Lz55hrzU",
   "7Q1111111yEYzzz0zimd38zJ111111111zvZ2zlzz55z3z3ufd11111111IJJEG2712z9z8z7zFzzzzACLHzL11M11",
   "8zzG1h8EzUzbP44E111111115Kge611418Jc111111111BtJ26CuNRzzQ5zAzEBPK6z2z8zz7lSIAZzF11111111z7",
   "zfC3111111111zf1TFc111111111eKT1GbTTOk4FzHsQ1AJSyzVJv111111111811111z6zoz93MIz71zTB2L11111",
   "1111zC1O511111dc111111111D66G6Z3839zB6Q11zzzG6mVYDG5zzB39Q111111111811111331RXz1zdOGVqpRCT",
   "B21111111118lpf2K79111111111nLAG2XUzzY1111CA1h7zDFzTAD8BSu4466691111111115311111z3Dz4zJcCU",
   "HzC3AzI111111111z7gT3BW1118zJHo1G6111111111811111Ez2k11119C2dIgzTvzD1Gr111111111811111zrzl",
   "GDzzWDcG444111111111oz639I44Fxo8CU825M11111111181111144667zCH811G15HuCEzRPnz4U244P11111111",
   "1811111z7tUn1f7zQzzO1111111lv4GdzfG8CoH111111111811111z08v1DRA6UzEtJTgzk111111111811111DHC",
   "Lpz7TezczDK44664bB8lz8o3A8z13241114cCK111111111811111czSZzQzZ98zzzDUc111111111111111111111",
   "1111zxUFqz8M2zLzPzCNzp1di111111111811111J1BzOIzRhz58vziDzTzCo7MiDSfzMz28M5K3ezFznM8CYX1111",
   "111111711111zwzhBu8T3zJci4224211111121111221124z6RqH5D1dO4457ozVQzEz6F12zctv44CZW111111111",
   "8111nzzODo4433514sAF55Kz7xKzzPFTzRA8Fz1Oz4zzJLDSyzB44Cz6111111111811111GcEtdxA7lv8CKfzzEQz",
   "lf76D6LPzUwzGz3R513E7FzL4zD44CnI111111111811111z06zTzXzU2PP322ryXLJ2111116zzrc7zx2Nz66l1X6",
   "8D9KzzAEBi31UB111111111811111zeX44zLK1zaJy11DMY3I7A74A6U311115Ez76zI9841483z5z5rHXX46zyC8L",
   "JDXQ8zMetzbJzzQBz81wz46H8C2111kCR2L4FzgSJD6Jz62C8zzftzzdEz022SXzzCz4FBF9AzT9s1buC11zd4z2EA",
   "zz23Ezz3Mzhgzs8CpLZzF2zPEDNFzz4yebzM1ZTI9Bm8C5FT4Ptzg8CwKI5eKuzME8CKbzzTFzGhz44JqzOS3bBazI",
   "HsBK4224116I3zzJL6HzxCWr8EzX44C1zzz5AzznI4dzozNJKzzk8TMn8CoQ7zMC2LP6zNOj9YC7G2914Q1tvzznzi",
   "Rz61L4466AdBfNMLwTVzl5Q42466zzBoJZJgPQII6zJRRKzpzI111111111zzDDzzzNOdRzzu111111B335zFz0EBz",
   "FL8b7FOCKV3IlH7Ag7111111111811111zKz05SAD111111111eSmJz4AIHz72C6zD13H1111112GzmzNEOOGz2K2z",
   "gz4z7izWX111111111811111czzGM111111111L4C8CL48j47HzA111111rK8aDEzEcebI1DXAV111Fzdc513tzFoe",
   "R5KY2y111111111811111Ykz1WO1111111111d111111zS5RS8zEZE2z8DNq5THQB86G3L1GW4113p6ii6JztfMzV8",
   "C4i829111111111zz5O2DHS111111111CL5Sf9J4A17K11111111Uir984zozez06EJb1Ve44662P7j71624zX1OB6",
   "Q1sDJC44Ce49zzBSQLJ111111EPzJ92Cc1111111z1Gs296z8DzK7YssEOz2lF3DF6dF4Az2QzEzZgzzzWHbzEJ2Gz",
   "FzCz8OznWA44662HPgH56211856z3Bze2C7zEkW9z7zFznzJ9gC9K7rAH1z9r731172CQHzznFIzi3C685Fg84zP3z",
   "sP19fMNKoEz8NzzJnzhASh7zZ5l3zzo8Lz6fmzk7fkPvzz94ET8C22TKDzzKbzIz0JaNjNC5gzSHCzbV8758n3dz1w",
   "xdK4lzzEAAMODI1XH4466zX5MzBFfUJE1Zizc1Bzv111111111BrOX2jAx1527Ez393MQ9UX9ctzBpzWzz2zf52zT6",
   "65BUHvS281b75zFW3111111111E3VM458666AHj111z5pF3743166PIzgLzrsAYzE8v3rzz62jJ2u86B4466GiR134",
   "zz3111111111WzzN1EzE8zgOzk3zm8Sh9qbBSzz1UlChz6zm2E53zPE2e1111111119EUHRC3z41FHGyWBz8zzzXTO",
   "KAznPpzMrzPMJzzX4466bBz4111111111o44669B5B5DrVz3L2zzR8URRHz8rCr1ASJkNGzboKQFJ36Ez363v11111",
   "1211112211241NY9oT111111111IqXPo5WDg413426V4DEE466TCzzzz4A6pK3MzzhzIOWCI2EyzUH4zFv11111111",
   "1gLP2zR16ERkRF44624zg984CdGzlDRMzWOYQzzUz7aGpFR9446Bm2csL111111111El9zHU32SQz8zzIz22Hs18zZ",
   "25E1zIBDzzzDdDG637zV9Q36zzz544514111111111zOzD9U9Rzv9TQzLBz5AzfzHdzrCDp6zkz2o21291125BC5zk",
   "9M414G111111111JBzpaGGz1nzoLKMS6ARhzHJzzwe3tv9zKzMMSY2rzxe8Kk3avWijzN9zXDzz4NUfXWv4ez0zz89",
   "VKdMz4tzuzzfXx4466dGD36D44542165CRLBGN2zy5zYTFJwEz44lK5GVzz4ND9zl5zE6z1VMaYKIn5uzQNZszz46z",
   "zia4zlzze45GvDCz9zP8D4828PzDnxZq4hS6I7S53hzzSSZPzvi8Bzx19zzDzDplCzedmCB9TzIAYONODz3Coz9zeD",
   "zZEzqsJzWz6BUB6nEzWQQnHzzGX61NQzBez9SaLw6zNf7zzz01TFzdzeQUUN9sh6DEBjgzcHzSzzs1IPzz69w8Xziz",
   "GzszKDXzz5zHcAZAFJ44gAzLizzH7O2uGzF121oy5D86zzzAzyGCTzAQ5JTOq8a9L8511111111111111111111111",
   "11zF7LQQWzKWCUzmzGzEveHA4GgzL4466LqzbFQezBdX6zzUFzmzaw11Cz59tfr4JzzZN52XVzzR35P8Izz6zF6Mzz",
   "CJhegLCYzzBII8szCWbiXZpxI44LzzzMWI7PRCYC253lmz62nRdFDzeuhzSxNz61111111111111111111111111oz",
   "zz8RzvzFz5imzk2zDfzz0z6LLuRMeA1c3H3P44BzMx15DJzzc8jsgz3IYdD111111111CjLzZZNpz8RcYz64466Q8Q",
   "N17Xzz4149z2Kz2G8198zCIUETTfi34zzb111111111zx6a9pN4S6RzGj144664zzmbE6965qIlxzLzOWzz1zzMW55",
   "g4111111111zPz0T444Lzzz3Tez7rRBlAUuOTVKzzzzMzlClzz9111111111wiIm2422664X344466zGCL1o4IzkS4",
   "DWKzJze9443I1h7a41MzzkAzI8WmUpY111111111LnzCzLz5z8I8E2H5zzGJ8h2zFFiCzAz3zzcLzzzz219fe11111",
   "1111QSzz8HFB3511zAmQEDzzwIEpR5zzX11111z4W5h7ZFznzN8zbz711111111GP58IAzYQzDz8zOfz4Wb6QGC111",
   "11z6zgPD5N479zzBPnzQJ6FzDzp5v92jSM5Xa744Cizc8zDUEzzEzzW8K4466CHyInzRkBzCOhFRBra7zzSzAU1111",
   "9zzPzPMizJzzYAN7Kcz3r9zr3zz7LzzzjzgV6zzh1IQqiLLzs7zzzJjBvQzN2zGRmnzz5RnzAp64B1zeaiKD111111",
   "1111F3UFzHLCluz7gmzz22BDzG911111117TZPC782AzRzr51AzIUEz4kzzl111111111zv4VBUXzJRJB444ZzmT11",
   "111hR4OG2zHSYgQ9zzji9zo2PzezR111111111Gez5HGeeCDR466GzmzLIzbKX11QzTz7HMSaAwFj17CBl84LzzGzS",
   "111111111RjozKi86xx67zJz18IHq7Sz3zzLzzfHzhz142266FcBzLAf1111111113zOLDQTBuzH6Bzn29I6zE2P8C",
   "Pn1YFp3m2zzNzuLOKkW8CJOz7z3111111111zCCbQI1111111S1Zzzg6CK4Gz7xO25zTkdd57Az8Lztz34466z0461",
   "141IGbPz5BDK7111111111161zIBfNezzK446sA66bKz0U4pzU36ATwBV2zwWKszzEzX29zT11111111135zrPJ4zA",
   "zr944nKzR32LCJuECz2z9CzzMFB36zD9z732z844662z0hKz551111111114Rz8zzL5zzNPBBzr3jXzKzIWzZWGSGA",
   "643rDLzH5HGzzZa111111111FzkQQ466OmGSzWaLM7zMjkB1caT2RD535C3iw111111111111111111111121Tzzy8",
   "C23za9zzJEz719JmOWzEz9RJ166S111111111zwtzHSXfHWLYz9z1PE9W5444661FHBS1zazz2J856z67pF3121313",
   "2HF2Bpz2zR111111111PX5s28sKCzXk1vQzzzzYL46QrzPfJGzzz4BQ51zz7S8A2CS111111111CP2BSnAXzBzMAJz",
   "JawNP1z9NYBDKWA6NOLfz32558zz6AzDQz3FY44fOL111111111brTztz5TAHZz3zTzzJMSZLzzuoEMS44615Ezb44",
   "66K3zTF2GIV2111111111bYQMz4446211z0Es8bVM7z82BtfFzy44662SICzZa2DuzfM5iz8111111111111111111",
   "11111115bz9M111111111611wYJuQ1q6zX2FzJzut5z6KI2F44662fUzzv8HHCz3z54bf44662vgP1111111117147",
   "A8z6FYLSzzDHrRDwUgy3Bz3PAMKCB2ziLSzZzU111111115uz0SO2249dc11111111144TmYOyYVz1WLaF6zN1zz4O",
   "4inzPF3QjOe322GzzNY6zWbzO11111111172Szzz4zV29Rzk1xzIIz7R25zTFzCE1zkzLDRW4YqwzBd1111111111r",
   "H5iABzQ93EK11FH6fzJzzz3zU4MZ6zzAfKERG3AocQaDzFK5TtZFU29uz97qzzAz24DO111111111z05O25zGIQUPz",
   "zmzm4651BzAzAzR615zRdTa2zA9F2qv96zHGZBw111111111v2333621zUWCHJvzxO4pzz7zBmmFzzzEtReqRL2C4w",
   "J7PGp5111111111zYNNbKoPW758AhG184JzHuW5AR1111111118111113BG1MTmEwDgfq74XjGGzzQkn7t21111111",
   "11oZzJk3zDHZ7QXzHKK3zU1111111111111111111111111811111G2GChFGMHIzPzX5Y6a44661zzyE15D7EmZ111",
   "1111115111o88Czd1111111n6zGAzzzz9k111111111811111QMzsO1BzlU4LzA66zdz11lt3z4111111111611z36",
   "zzz97C5BszEKoIV9zB111111111811111VBz9zTC12GzdOUdf4466y6SRPB11111111111111111111111115HEgV1",
   "1111111171EJMDz2zBb4Lk2rBz8nziQ111111111811111zIXR11111111111111111111111111CzUzhDzzDmHb29",
   "d2FBz6B111111111817zBziINE94qWzG63zB1LPKoE111111111811111aWLiyRXzN9B8AOEQp1345erzB6ZQh1111",
   "111119zzjzBL7TLzUzM49M56K2z51111111118111116SzzYwzm67911zzIAzj81BbzN111111111bz9kzeE2dzCz9",
   "zz9m3111111111811111tPzOzBmzBz1LCKI43166YbZww4dk7zvBFzNPJA164aNOZ61111111115Z4Y595544516N8",
   "E111111111811111A1zF451111111111111111111111111sJCzoFCjaWl4D5zZtzz619w6DSzk8zzz3O111111111",
   "6oIN5At111111111811111RuAAz9wzz4VRhzzzAOtqdETszBzEYMDz8GQ1111111116VRzzqGZ2MEUA8VzoTzMMJiz",
   "LM8bYSzf76536665z04662z58VR431669Go7K6J5111111111411117QEWzzmk6zV12zRFzzo98RD5zzzzH68CJzfz",
   "zUAIMA6z61111111115111N42zzOIzzA5bSVz4KR3zKFjzU4pz56BzCZLHX7EzzbO8zz2111111111611izzDQCzzN",
   "zrz1zz23PzzO2SAOzNZBzhzY9b6EhFzA2111111111711zzZAK44AyG9MW4azHzSz17zkzz9353zARz7zP8K111122",
   "1vGzz1DaM1111111111611HPS6z6CWzz8EuzCzFRq9C2zzqz1zzzzID111111111znzqe41111111119SVzzIMYQzZ",
   "eC3zPz8ATzqzwuzYFz79XF11112111DJAz22LfZmF111111111E9zzM111111111811111Fdz0L72zJlIQ8394z62z",
   "pDzbrZm2JJVAKRz3D31zEzcxjz92Wz1111111111811111zKAAm8hfS1111111116zzdzO2Qzzr8CJDzC1sf962111",
   "121z6wbH111111111111111111111226k5u462E2Ao9T1111111115311111uIbe61Lz5F9111111111CBz0zSzxwz",
   "Z2PSFzTz2M11111111zOQ42116ES84Ag29FzPz627K41111111118111115SzXVczB1111111111Lz2p851wxaByZm",
   "Qz08C4cQ44624X71111LtP6HHzKz4E8dzY141111111115311111VzEz2BDz96111111111ZO7Kigj9uV3z2z4IzzE",
   "V244664Uzzoz5SWzJLx111111111811111gQPpe1TJa111111111HSz278cz0zzbzHgzz84466koqAI24466DMEzTH",
   "8UkzQWf3QOJuRN7111111111Akzz0inzb4466Xnje3uz9zIz76C6Cn8Tarzd4466mEzHzz9111111111BRvzx7z3Wz",
   "0Jzzz6i42266a1omVHU4jz3z5zd44621111121kzlMBnEH111111111fCvq6WgH6CJ9BzWzPsFz644663dz1z76446",
   "6zvP866ziTC11121zY9dI4B1xR7111111111zZzz45nEz2zJUzzYC4466VNO4qe8g1UDtIpUtU12111111fF511111",
   "112111211111111111ZDz3z8111111111zwTTjD111111Nz81zZzMzzIzi4A8YF44663NmeR2GJ2Ezd44331112111",
   "11zze2z6J5zPD7g1111116sM75hJ4PR11aY7Y111111111zzg44246zoz644336XznG4Vi9gK113211zzLj11z8zzb",
   "2zFnzG14VqO111111111CvzAO4466hV8zd7M7AFzL7B2lUz36446111111112J8rV3146DL3DiOzC5zDv6eYzUzd74",
   "111111111JIzSKI4466zzT3ZzzTRPMi5T446411121HNV4BXzzLRl2zzcVEzImAs111111111VH2FoQN422114668k",
   "3za31316dzkL4VKiDs111111111zsbz5ztzU4z85zcKDhVP1111111112zze4466zHz52W4466ZCz1P9S121112111",
   "124111111Akh44611111111118dpYM8zDRG5NzhzQ5PCKIONzPN111111111zzCzzFaSFC4466n8V14W7JhlHLP612",
   "112XzCn5111111PqGSzC6Jzk75mfSzUN1111111114LZ9gr4466LG2VzT44644466Dzz8zpS11111154466pzkOdIT",
   "UtY7zuizi44Tf1111111119gzGa44615Fv6MzMz5xNAVKMbLK4466GpYiRCzRzBbOza5DzGA112442511117Y1nH11",
   "1111111zzg44662CzD51111117s441212zPyLULzd4466zDeFAzP2zozLXn5zcC8zG7S111111111zD5Sv44651DX3",
   "XfB9462121JE51cz36K7843OO3DRzRzTA13451NzzzzMz7G5zb754ZPzD2ZzKU842266ET5111111111zzz9P11111",
   "11113YLDzWAZ4466ROzk5aK1X6zzJ9X111111sPz5iN8FNpD2PBPzMz211111111142z9BYE6c3Z111111111VFQ5E",
   "IKh9S446JNzygSzIvVTz211121A5IzOItOfzhMb44651134124115Q1111111117EzHlzA11111111144opzbzKzFQ",
   "OEAT8LtQyzIKIWXxzZHhlx44667a5111111111iBBzka8111111111zLRz044667CE6czQ853CPLBv1zDSM33zh5F4",
   "z8Cc4A64L6nzg4bM42224661ER111111111L5z1ko8P111111111wLGEz1c4466DzaaTKHIBbS75zzy25zMxA144PX",
   "PIzJz14466m111111111z08ONYQNI111111111YOxNISimzVA25644336A5zNL6Us9Jcg5zzU2aXzzUP444516m111",
   "111111182nz2zX1111111112f44617Bz11tzXu446A21f4Ckzkt1ZxKzYWAzzIUBC92z61111111g111111111MI89",
   "36zzT111111111lQ41zhfzRJR8Ar46DzXLz2zf5JzL6z5RTLzKEz4C11211111GP111111111zizp1111111117GZk",
   "TRMAYSIAaxZG3PBcczzUfQz2zbE5vR1OzMO111111111zzOzVBI111111111aRbznzy1wHLz8XfkzXPzu9ez6G5zz2",
   "S111D111111111Xadczz8zzmjRzVzP8zOJreGkb2AzzV44Ok7iz024B744661M41214111111111zzEq2LOKiMA3c3",
   "CMzpo8kzIzazLezSZ8NRzJ5z8LEZzi111111111zz1HhR9g6rHmz12611414zzPVJf73zITOzM8kzzzqElzmSI1111",
   "11111hGyuspBMgAzzaz7PF11lO3pzTCz0zRTE37BFjMTKFJW2zk446614U1BnRFzUzG65w4Aze44666U6zr3ZbKSz7",
   "zE4ALWXO5xKgKKyYzNN44661e7N4466besB44kzSmquUJc3OzM5EEYzhzPqIzH5zz3ohFnWWAHzzzfNz3zNziQ7lGa",
   "mz6LzyzbWPD586A67EM41224zpmlezzH9gBAcDzzzzOBzRz59A94258PNzzGYOBQ525zpz0zp2SeCNr6DzzZC7ozzz",
   "6Pc9zLNyBAkzzN2z7kUbr57Oz71P3Pz7BB44661zBzZz4KDEzGD531zk4zAGj3zz06TRUz22zy1BzzzlWzFPCA4466",
   "1sNRHzzzR2f446zH5YY4IXzsJZUAAzX8GH81YCOMzNOd714224fzAIlT413661zBXWRV4457A744B9QICz7446Ez71",
   "4444246e2o9CAEGaC1GKzN41zzzCz1uWC446154BzKV1JzzWJsIz4iSTGee22z6EtzWzN6gzLzJkzDVCZHAAE4z91Q",
   "eGQz7JrzGQzzs8EjzEnBz7AiVzJhzz7zZcR2W6wzszM4466TzzVL15zfOzMizczRTNDDB9qzEizMQ4466tRzTJPAJz",
   "zBIyV77z2Yz1cqK446Jz3zY4LBJ1oD3384487O1zUyN4EEDfJ9KfvpO4SoPlII444661ziK5OH8Dzc6zzrqDOaE8AI",
   "zHzNHCC7zRzOziOPz9ZOSS7L48D44z1u7B6v6d1224H5Jziz0bB2Kd122466zo7z5zKA2YEzpU6Tn8BJ444UBzWgzz",
   "R5yzcdzBWMwz3oz7zhR8z1cZrz9zOHVF5tIz1M11zzOM4464113zzvz92lz01YDz34466lBAzRhJBTT6zzze48Gzb6",
   "ZxzSE44661Mzp611111211YzV6Izz4zLszzztH7Oz8efzuOJ4P33YORfzMMvOq8C722zM5224P3pW39z6Lz8gCL7lo",
   "422FzbADzBfdzkjJ17smG631CV6zA44661l78CHMzf3zN8zRzz2W34466za13h6zgnxTzz4z7zpVdaUcz6gNZU5LUU",
   "z7JzbQFi413651EVaz9zYHzjzzzaGzGZcMzQPzUstxrIz4U4466JZCSDKwaQ466K9Esz13zvzIzwRW1fz6zfG4466w",
   "nzNFyEjWHzR7L1zzzDzMzieAzaiizz46Riygz8OMzQ244O93zc3zzI8G4466zzzpvI8k742JozIEL11111111sT6Kn",
   "zzjePMzEw7HJ4A9zJ3OSzPJA6BX9446VWod7YYzJ111zmlRzdF173tzhnW4466366R51BWS44zzAA8CxzZg44642ic",
   "C3zoH7yBPXzz2k8xzBzzs44H5TF1z52zm54zLHzgz9f111112466YAzqzYzI1513499zdzOg6Z564zA917WGzzD461",
   "5kHzS4yEh73z0W11111111yD9Tk12111117zK3JLlAJez86z2jhLTBz49z13UKaR8D4466sXQYuzzFHSz1UCb71N31",
   "13633576C111222Qq5224zJM1L417QzCzuzb458s2EzVHK6a1111119zz3176cL418zY231278G84jnFz8C7L7d211",
   "1111BIN6LfAqCazVRTz4PHWMJST457zIHpMNzuFzP1nNzcFz25z31N311366U3111111zm7757zz2z2CV111111111",
   "Cz2EzzzJez544zX5Fl214zBZ56wiVzDzP2O4466U13212zKzDb2dlQ3B2MF6111111111K8CznzU7446616nCefR7m",
   "zP448FzBiADczzCBmM2413662N511111121zzzUzCkX111111111944FO2E54MEzY1zZBzZgzj2jLB44VjiUfQzvTH",
   "O411112111z0AzCUGzz6l1111111114UIRWczzud111111111QNN7z4DzzCiXoV75Mzq44615M3593FC11111121zy",
   "z19Czv9I88111111111e5zz8cO8Czm111111111G3gEz0OBKzteDgGzzzT531136a111111111BW8yOz3zLf72CM11",
   "1111h75z847TXzOzR14111zzz85E44MCNk21zXz8c44zHR2AZ11211111a8zU3zz6Ciz4xzGzdzOzzE8zR1A2AzJEz",
   "9Y6zEtzQ3B6CKbE16234AT1B4J61DZzZbaezzX111IE4PO4831hMfQ79NrNs2D8CV5JXDzCZAh1dz4M2413615LAnz",
   "zezIzzz4kzY1413313315161I135G247INT4m6N44CCJd9OHR44z6zjxU466Fd3PazxJLzO9Mz7Lx6z0zzSChazr2T",
   "WWUOvzzF22xz7z1R21rCh446SES9y9ziQzIg5mH7KKT44z9esj111111111529z84hCIRIzzSzOMxG72PIfE724zzF",
   "zzG452zzzz9JKJGTzU7Z111111111i5OQbz5Fz1lzOz5gZZE1ezcSz59GX5Oazz44A5113zr21255125NGzzI17111",
   "1111119422zz5AM4laz2z51Vzw3C8GGz696NAMzzz64zhG8MAP3zX38Dzrz4I3111111111GMzP8zRzjAEzDQb4P44",
   "426464ONIqH26LzzXdJNc538zfIxzmzmOA111111111344zQ446Ki224I6zHgG2CKB2bf25NAAM5z3apzIzzQz1zNe",
   "1342TzNV4QdYIh6111111111Dez444Ezzz3RcA13LZwRz8MzFVmzaZz4zMXPlGKCNJjaF31327RS111111111zDwYz",
   "wz9sIDbRgXAw3zl8eS5M344AgzE9z2tHA1oTbzzg1111111113z4z32TDOge1D8SzTzbPzFzZGBzzGrc1zH11HzLjI",
   "EHK41366oUL9BGA11111111138kjUQI224Utl28979D7I6zNz15Tz78aG55rzSGrdzK8Jd89zwcpzc1111111116Ch",
   "3z61Hzm9zGavx27CzzY5ZM4B3drQB75FzPb864BAQ7zz76zazzPQd2H8Ezz99wleL3CyC34269dz3zUbz9447Vfs74",
   "I24zg9dz49Vz352ldHzN61224Kwz4JHJaz7z4rzm2QzzsHzUAzXY3d242Lk995tCkcdB644Fksyaz61ojzY36pRlzW",
   "DqUjz5zxu4B44zgtzzQsLOGW1QzzAkcGN1A3zz7DE5Izi95zvHz323411141hW1v3wzzz1FzKhzIJMAdgSz4zI8GpP",
   "B3V64F446BVShz4Uz55644zGwYT57B2qOz2fgQYzz9r22461144z1BiLz0zyivlSWh8IUObzcfzJLM1516z6KYCG9D",
   "R8p4EDuzz346zaEnESzB69LFBFzzGGjA21331311121111111mR2zzzxPCzzq446421GCML3zzLzDQxZqzT1EQ9Wz7",
   "44zhKf2mO466bzzzzQV6HGUhzt4466KNG41126t9AIN5zVzzHNBJ5K2GEie5S96wUzz1UBIszccd44KzXlHL9nEbzD",
   "zG8z0fI8114LFwT5C4OMbFc77145412z4MpAp7OgjCY8EblzziGENzzMR466yOIwzvzBPTzoFqbzq9zOJ442442R44",
   "66zmIDQEkzptWtHaTA4hPulNL4z4o4574N4z0zBLwU2Cqz06RJ3VNqzPzzzzzg6c224zf41964ziC2DAzJza4466zt",
   "Kz0G2xAE72zzzzxIKe3948zCkzNze8iG14644UI8rzLJNfz532Cw5jzY5Xo2Yozm5zcna1zCz7gz0CA4122456zL11",
   "1e4z13hzKSNH5814zOWHFMs1wzzhiz4m446z212114G2h4SH6z1TS111pYLf9tMzJu8CzMyGyzH244zzzh2KzzMzFc",
   "tDYm6zF1zY3L1Yz0zab6LBxe44AA8BORz6xUHXf458zB8U1224Q2Gn111111115zz8KzLz6zpl213466jARzoFN7CH",
   "vzK1eezh41561lLzmb1zaLzzzhCzF84zcMLGzAzz1zm318zJzzjz3z4h4zWVvLhCzSzz2zz3zzzmH44z8Vz0BR45BB",
   "8311111111zm8AzM26z9g6zzzYTKEzzvZtzZr7PVQXU272171zopVH988XzzzbbzzzZzusA3VJeB224661uzzz4iiz",
   "ZLweMbzrzUz3z9nCzM8zLzzZonlO3q1CxO33vYzHcQzZZXFJz7nzzWC19zCsaDzUh4a4zRz2rJ9wMFfZYLl446514z",
   "VAHSzF3B4244312zm8C97Tfzcdzpx4A6zz5rfz4zJZHOu4d9zzfBCUTim69WOLzzzbXzkzermqObI6zLCzz7A3A1HE",
   "BV446z21224E3zzJn3CzzkzPzb3BzzeSzIdzrF44D5z986zEEzuHzNjzbg4hUNDRqzN53CBzCPW5zTVqzFfB7Kz5O6",
   "4Npqzhz0p9VzTzMzPBHeKECWaQ89p44zEzLizzxz4AzDqzzzzu9zzgzD2QzzXz1Abj9zz7zzCj6szOB7eb24YQz2XH",
   "qXs224Wp8B4E815zGEzIP3jhU1111111111111111111111111r4226657dHM5Nzz2zMzHzHzE4227YANzzA3bCyCV",
   "OSzRzQ83565UoAzT9446636HK6Qzeh43166zxznX38Ky4466136h8YhisDJIzVe75IzlHKUzPDNNAOW8CzJaH92zuS",
   "4311111111211112TzvQzN44664KQzXzOzKz1zzkz8zfRP874A64az6Dz952mbcyPC2ZPBq5z4D4466AKyTkPMHojE",
   "Sz8Dzz6z1F85BdzXzz6ofCzz9SnB44za2zI7zzmgW433331zz1466zCzFzDGWzVT9Uz18bA79zSz5Fbur421121152",
   "212z8e8664784cnBzSz5zOH2AzKDAzvGP446Snm12241A6ONzcYTzztz0JzzH446646Xez0113zz48144jzzDAIzzH",
   "zZ8x4dzzNzEA7zaobnNB444261r4AGz344zE3z6FAJ37v8WBScGJCDzzTIz95hO8Czz3B38QzJ8C9Dt824zH6MzoB4",
   "4BKe44661zBzzq4BHVEczzqN446Iz6NQ1zzz0zm737LzWrzzV6646YC2G4466WoSd77HjzQ82zIYCS5IiPzzA22436",
   "wzd6NKElzziF1447lfAAc24466WSNE9Lq4Oz9zGz065z1n1HTCKO8FozS6TseCFDz92ISzzFzZ9zV4466226TFz1xz",
   "14U3212eI12N6UYtz53wk5KTGXU214111222YBO78HzLNJUvzdzdze446646fQkzJNzz0e4khOzQQWX11z8R111111",
   "1111111111111111111ezzH8CAziP7WznRDzS446211111hmzBzLzzUOP3zCDz3r4468165IG8nK4zYCCJ74V751PE",
   "K4rze9zePzU445Nzztz4B44Lzqfa34F7Iwj43164zz9v9Q4VytW8CFH4Jzjz4Sz398664cDa4633vfAzWQzSzD4LAE",
   "zaA4316oL9eHzLkuzwzzU1224fVN2Eq664StDdzzzozMDoPzPO42116IKd41z4XzziuEmk4sE4A2Mbzc22A64zzJ11",
   "1zz2PRGhbdzLp5F4466Y1A2ZzRIQOzzzvI5NGUzzz8U44664zzGHcOFzLzV47177EEzgThD1446G6zAzGg1A9TK2zB",
   "zzN5uzzzC4466zz9z03z05wzzCMmp4UWD867zPg9zz1OhMC6zzp6e224vHzU4DTz33mmQx44zTjSlfwq446Jw1FAEL",
   "2zFl3zzA8CzjB9zzqFN8664aUz8Y7kM7LMz0BzzWZ426zL43168p591cDN6aE4466j6f5rtz6uzzhd4736B829z044",
   "zbu76Hz2czBz7vnN13316N3jo4156gC56YbzDH3ojBzR7CzzeM6AS4466Kz2zzqzp6zaziDgz22BvQcj466zzF4424",
   "6dTf9Jz39zWT664TxzzMI5Aw2Tzanz1Gss47Na124"]

def holds (name : Text) : Bool :=
  holdsFrom (fingerprint name) 0 (distances.flatMap String.toList)

end NameTable
end PodManual
