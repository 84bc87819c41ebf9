import RestRecords.Text.Numeral
import Std.Data.HashMap
/-!
# Decompositions

The characters that are made up of others, or that are another form of others, as of Unicode 16. The
syllables of Hangul follow a rule and are not in the tables.
-/

namespace RestRecords.Text

/-- What is read of a table: the entries, last first, the first and the last source of the entry
that has been begun, its targets, last first, and the number that has been begun. -/
structure EntryReader where
  done : List (Nat × Nat × List Nat) := []
  first : Option Nat := none
  last : Option Nat := none
  targets : List Nat := []
  number : Option Nat := none

namespace EntryReader

def close (r : EntryReader) : EntryReader :=
  let next := match r.done with
    | (_, last, _) :: _ => last + 1
    | [] => 0
  let first := r.first.getD next
  let entry := (first, r.last.getD first, (r.number.getD 0 :: r.targets).reverse)
  { done := entry :: r.done }

/-- Sources stand before the equality sign, from the first to the last; none are the one that comes
next. Targets stand behind it, with points between them. -/
def step (r : EntryReader) (c : Char) : EntryReader :=
  if c = ' ' then r.close
  else if c = '-' then { r with first := r.number, number := none }
  else if c = '=' then
    match r.first with
    | some _ => { r with last := r.number, number := none }
    | none => { r with first := r.number, number := none }
  else if c = '.' then { r with targets := r.number.getD 0 :: r.targets, number := none }
  else { r with number := some (16 * r.number.getD 0 + (hexValue? c).getD 0) }

end EntryReader

/-- The entries of a table. The sources of a run go with targets that follow each other. -/
def readEntries (lines : List String) : List (Nat × List Nat) :=
  let read := fun (r : EntryReader) (line : String) => (line.foldl EntryReader.step r).close
  (lines.foldl read {}).done.flatMap fun (first, last, targets) =>
    (List.range (last + 1 - first)).map fun i => (first + i, targets.map (· + i))

def pairEntries : List (Nat × List Nat) := readEntries [
  "C0=41.300 =41.301 =41.302 =41.303 =41.308 =41.30A C7=43.327 =45.300 =45.301 =45.302 =45.308",
  "=49.300 =49.301 =49.302 =49.308 D1=4E.303 =4F.300 =4F.301 =4F.302 =4F.303 =4F.308 D9=55.300",
  "=55.301 =55.302 =55.308 =59.301 E0=61.300 =61.301 =61.302 =61.303 =61.308 =61.30A E7=63.327",
  "=65.300 =65.301 =65.302 =65.308 =69.300 =69.301 =69.302 =69.308 F1=6E.303 =6F.300 =6F.301",
  "=6F.302 =6F.303 =6F.308 F9=75.300 =75.301 =75.302 =75.308 =79.301 FF=79.308 =41.304 =61.304",
  "=41.306 =61.306 =41.328 =61.328 =43.301 =63.301 =43.302 =63.302 =43.307 =63.307 =43.30C",
  "=63.30C =44.30C =64.30C 112=45.304 =65.304 =45.306 =65.306 =45.307 =65.307 =45.328 =65.328",
  "=45.30C =65.30C =47.302 =67.302 =47.306 =67.306 =47.307 =67.307 =47.327 =67.327 =48.302",
  "=68.302 128=49.303 =69.303 =49.304 =69.304 =49.306 =69.306 =49.328 =69.328 =49.307 134=4A.302",
  "=6A.302 =4B.327 =6B.327 139=4C.301 =6C.301 =4C.327 =6C.327 =4C.30C =6C.30C 143=4E.301 =6E.301",
  "=4E.327 =6E.327 =4E.30C =6E.30C 14C=4F.304 =6F.304 =4F.306 =6F.306 =4F.30B =6F.30B 154=52.301",
  "=72.301 =52.327 =72.327 =52.30C =72.30C =53.301 =73.301 =53.302 =73.302 =53.327 =73.327",
  "=53.30C =73.30C =54.327 =74.327 =54.30C =74.30C 168=55.303 =75.303 =55.304 =75.304 =55.306",
  "=75.306 =55.30A =75.30A =55.30B =75.30B =55.328 =75.328 =57.302 =77.302 =59.302 =79.302",
  "=59.308 =5A.301 =7A.301 =5A.307 =7A.307 =5A.30C =7A.30C 1A0=4F.31B =6F.31B 1AF=55.31B =75.31B",
  "1CD=41.30C =61.30C =49.30C =69.30C =4F.30C =6F.30C =55.30C =75.30C =DC.304 =FC.304 =DC.301",
  "=FC.301 =DC.30C =FC.30C =DC.300 =FC.300 1DE=C4.304 =E4.304 =226.304 =227.304 =C6.304 =E6.304",
  "1E6=47.30C =67.30C =4B.30C =6B.30C =4F.328 =6F.328 =1EA.304 =1EB.304 =1B7.30C =292.30C =6A.30C",
  "1F4=47.301 =67.301 1F8=4E.300 =6E.300 =C5.301 =E5.301 =C6.301 =E6.301 =D8.301 =F8.301 =41.30F",
  "=61.30F =41.311 =61.311 =45.30F =65.30F =45.311 =65.311 =49.30F =69.30F =49.311 =69.311",
  "=4F.30F =6F.30F =4F.311 =6F.311 =52.30F =72.30F =52.311 =72.311 =55.30F =75.30F =55.311",
  "=75.311 =53.326 =73.326 =54.326 =74.326 21E=48.30C =68.30C 226=41.307 =61.307 =45.327 =65.327",
  "=D6.304 =F6.304 =D5.304 =F5.304 =4F.307 =6F.307 =22E.304 =22F.304 =59.304 =79.304 385=A8.301",
  "=391.301 388=395.301 =397.301 =399.301 38C=39F.301 38E=3A5.301 =3A9.301 =3CA.301 3AA=399.308",
  "=3A5.308 =3B1.301 =3B5.301 =3B7.301 =3B9.301 =3CB.301 3CA=3B9.308 =3C5.308 =3BF.301 =3C5.301",
  "=3C9.301 3D3=3D2.301 =3D2.308 400=415.300 =415.308 403=413.301 407=406.308 40C=41A.301",
  "=418.300 =423.306 419=418.306 439=438.306 450=435.300 =435.308 453=433.301 457=456.308",
  "45C=43A.301 =438.300 =443.306 476=474.30F =475.30F 4C1=416.306 =436.306 4D0=410.306 =430.306",
  "=410.308 =430.308 4D6=415.306 =435.306 4DA=4D8.308 =4D9.308 =416.308 =436.308 =417.308",
  "=437.308 4E2=418.304 =438.304 =418.308 =438.308 =41E.308 =43E.308 4EA=4E8.308 =4E9.308",
  "=42D.308 =44D.308 =423.304 =443.304 =423.308 =443.308 =423.30B =443.30B =427.308 =447.308",
  "4F8=42B.308 =44B.308 622=627.653 =627.654 =648.654 =627.655 =64A.654 6C0=6D5.654 6C2=6C1.654",
  "6D3=6D2.654 929=928.93C 931=930.93C 934=933.93C 9CB=9C7.9BE =9C7.9D7 B48=B47.B56 B4B=B47.B3E",
  "=B47.B57 B94=B92.BD7 BCA=BC6.BBE =BC7.BBE =BC6.BD7 C48=C46.C56 CC0=CBF.CD5 CC7=CC6.CD5",
  "=CC6.CD6 CCA=CC6.CC2 =CCA.CD5 D4A=D46.D3E =D47.D3E =D46.D57 DDA=DD9.DCA DDC=DD9.DCF =DDC.DCA",
  "=DD9.DDF 1026=1025.102E 1B06=1B05.1B35 1B08=1B07.1B35 1B0A=1B09.1B35 1B0C=1B0B.1B35",
  "1B0E=1B0D.1B35 1B12=1B11.1B35 1B3B=1B3A.1B35 1B3D=1B3C.1B35 1B40=1B3E.1B35 =1B3F.1B35",
  "1B43=1B42.1B35 1E00=41.325 =61.325 =42.307 =62.307 =42.323 =62.323 =42.331 =62.331 =C7.301",
  "=E7.301 =44.307 =64.307 =44.323 =64.323 =44.331 =64.331 =44.327 =64.327 =44.32D =64.32D",
  "=112.300 =113.300 =112.301 =113.301 =45.32D =65.32D =45.330 =65.330 =228.306 =229.306 =46.307",
  "=66.307 =47.304 =67.304 =48.307 =68.307 =48.323 =68.323 =48.308 =68.308 =48.327 =68.327",
  "=48.32E =68.32E =49.330 =69.330 =CF.301 =EF.301 =4B.301 =6B.301 =4B.323 =6B.323 =4B.331",
  "=6B.331 =4C.323 =6C.323 =1E36.304 =1E37.304 =4C.331 =6C.331 =4C.32D =6C.32D =4D.301 =6D.301",
  "=4D.307 =6D.307 =4D.323 =6D.323 =4E.307 =6E.307 =4E.323 =6E.323 =4E.331 =6E.331 =4E.32D",
  "=6E.32D =D5.301 =F5.301 =D5.308 =F5.308 =14C.300 =14D.300 =14C.301 =14D.301 =50.301 =70.301",
  "=50.307 =70.307 =52.307 =72.307 =52.323 =72.323 =1E5A.304 =1E5B.304 =52.331 =72.331 =53.307",
  "=73.307 =53.323 =73.323 =15A.307 =15B.307 =160.307 =161.307 =1E62.307 =1E63.307 =54.307",
  "=74.307 =54.323 =74.323 =54.331 =74.331 =54.32D =74.32D =55.324 =75.324 =55.330 =75.330",
  "=55.32D =75.32D =168.301 =169.301 =16A.308 =16B.308 =56.303 =76.303 =56.323 =76.323 =57.300",
  "=77.300 =57.301 =77.301 =57.308 =77.308 =57.307 =77.307 =57.323 =77.323 =58.307 =78.307",
  "=58.308 =78.308 =59.307 =79.307 =5A.302 =7A.302 =5A.323 =7A.323 =5A.331 =7A.331 =68.331",
  "=74.308 =77.30A =79.30A 1E9B=17F.307 1EA0=41.323 =61.323 =41.309 =61.309 =C2.301 =E2.301",
  "=C2.300 =E2.300 =C2.309 =E2.309 =C2.303 =E2.303 =1EA0.302 =1EA1.302 =102.301 =103.301 =102.300",
  "=103.300 =102.309 =103.309 =102.303 =103.303 =1EA0.306 =1EA1.306 =45.323 =65.323 =45.309",
  "=65.309 =45.303 =65.303 =CA.301 =EA.301 =CA.300 =EA.300 =CA.309 =EA.309 =CA.303 =EA.303",
  "=1EB8.302 =1EB9.302 =49.309 =69.309 =49.323 =69.323 =4F.323 =6F.323 =4F.309 =6F.309 =D4.301",
  "=F4.301 =D4.300 =F4.300 =D4.309 =F4.309 =D4.303 =F4.303 =1ECC.302 =1ECD.302 =1A0.301 =1A1.301",
  "=1A0.300 =1A1.300 =1A0.309 =1A1.309 =1A0.303 =1A1.303 =1A0.323 =1A1.323 =55.323 =75.323",
  "=55.309 =75.309 =1AF.301 =1B0.301 =1AF.300 =1B0.300 =1AF.309 =1B0.309 =1AF.303 =1B0.303",
  "=1AF.323 =1B0.323 =59.300 =79.300 =59.323 =79.323 =59.309 =79.309 =59.303 =79.303 1F00=3B1.313",
  "=3B1.314 =1F00.300 =1F01.300 =1F00.301 =1F01.301 =1F00.342 =1F01.342 =391.313 =391.314",
  "=1F08.300 =1F09.300 =1F08.301 =1F09.301 =1F08.342 =1F09.342 =3B5.313 =3B5.314 =1F10.300",
  "=1F11.300 =1F10.301 =1F11.301 1F18=395.313 =395.314 =1F18.300 =1F19.300 =1F18.301 =1F19.301",
  "1F20=3B7.313 =3B7.314 =1F20.300 =1F21.300 =1F20.301 =1F21.301 =1F20.342 =1F21.342 =397.313",
  "=397.314 =1F28.300 =1F29.300 =1F28.301 =1F29.301 =1F28.342 =1F29.342 =3B9.313 =3B9.314",
  "=1F30.300 =1F31.300 =1F30.301 =1F31.301 =1F30.342 =1F31.342 =399.313 =399.314 =1F38.300",
  "=1F39.300 =1F38.301 =1F39.301 =1F38.342 =1F39.342 =3BF.313 =3BF.314 =1F40.300 =1F41.300",
  "=1F40.301 =1F41.301 1F48=39F.313 =39F.314 =1F48.300 =1F49.300 =1F48.301 =1F49.301 1F50=3C5.313",
  "=3C5.314 =1F50.300 =1F51.300 =1F50.301 =1F51.301 =1F50.342 =1F51.342 1F59=3A5.314",
  "1F5B=1F59.300 1F5D=1F59.301 1F5F=1F59.342 =3C9.313 =3C9.314 =1F60.300 =1F61.300 =1F60.301",
  "=1F61.301 =1F60.342 =1F61.342 =3A9.313 =3A9.314 =1F68.300 =1F69.300 =1F68.301 =1F69.301",
  "=1F68.342 =1F69.342 =3B1.300 1F72=3B5.300 1F74=3B7.300 1F76=3B9.300 1F78=3BF.300 1F7A=3C5.300",
  "1F7C=3C9.300 1F80=1F00.345 =1F01.345 =1F02.345 =1F03.345 =1F04.345 =1F05.345 =1F06.345",
  "=1F07.345 =1F08.345 =1F09.345 =1F0A.345 =1F0B.345 =1F0C.345 =1F0D.345 =1F0E.345 =1F0F.345",
  "=1F20.345 =1F21.345 =1F22.345 =1F23.345 =1F24.345 =1F25.345 =1F26.345 =1F27.345 =1F28.345",
  "=1F29.345 =1F2A.345 =1F2B.345 =1F2C.345 =1F2D.345 =1F2E.345 =1F2F.345 =1F60.345 =1F61.345",
  "=1F62.345 =1F63.345 =1F64.345 =1F65.345 =1F66.345 =1F67.345 =1F68.345 =1F69.345 =1F6A.345",
  "=1F6B.345 =1F6C.345 =1F6D.345 =1F6E.345 =1F6F.345 =3B1.306 =3B1.304 =1F70.345 =3B1.345",
  "=3AC.345 1FB6=3B1.342 =1FB6.345 =391.306 =391.304 =391.300 1FBC=391.345 1FC1=A8.342 =1F74.345",
  "=3B7.345 =3AE.345 1FC6=3B7.342 =1FC6.345 =395.300 1FCA=397.300 1FCC=397.345 =1FBF.300",
  "=1FBF.301 =1FBF.342 =3B9.306 =3B9.304 =3CA.300 1FD6=3B9.342 =3CA.342 =399.306 =399.304",
  "=399.300 1FDD=1FFE.300 =1FFE.301 =1FFE.342 =3C5.306 =3C5.304 =3CB.300 1FE4=3C1.313 =3C1.314",
  "=3C5.342 =3CB.342 =3A5.306 =3A5.304 =3A5.300 1FEC=3A1.314 =A8.300 1FF2=1F7C.345 =3C9.345",
  "=3CE.345 1FF6=3C9.342 =1FF6.345 =39F.300 1FFA=3A9.300 1FFC=3A9.345 219A=2190.338 =2192.338",
  "21AE=2194.338 21CD=21D0.338 =21D4.338 =21D2.338 2204=2203.338 2209=2208.338 220C=220B.338",
  "2224=2223.338 2226=2225.338 2241=223C.338 2244=2243.338 2247=2245.338 2249=2248.338",
  "2260=3D.338 2262=2261.338 226D=224D.338 =3C.338 =3E.338 =2264.338 =2265.338 2274=2272.338",
  "=2273.338 2278=2276.338 =2277.338 2280=227A.338 =227B.338 2284=2282.338 =2283.338",
  "2288=2286.338 =2287.338 22AC=22A2.338 =22A8.338 =22A9.338 =22AB.338 22E0=227C.338 =227D.338",
  "=2291.338 =2292.338 22EA=22B2.338 =22B3.338 =22B4.338 =22B5.338 304C=304B.3099 304E=304D.3099",
  "3050=304F.3099 3052=3051.3099 3054=3053.3099 3056=3055.3099 3058=3057.3099 305A=3059.3099",
  "305C=305B.3099 305E=305D.3099 3060=305F.3099 3062=3061.3099 3065=3064.3099 3067=3066.3099",
  "3069=3068.3099 3070=306F.3099 =306F.309A 3073=3072.3099 =3072.309A 3076=3075.3099 =3075.309A",
  "3079=3078.3099 =3078.309A 307C=307B.3099 =307B.309A 3094=3046.3099 309E=309D.3099",
  "30AC=30AB.3099 30AE=30AD.3099 30B0=30AF.3099 30B2=30B1.3099 30B4=30B3.3099 30B6=30B5.3099",
  "30B8=30B7.3099 30BA=30B9.3099 30BC=30BB.3099 30BE=30BD.3099 30C0=30BF.3099 30C2=30C1.3099",
  "30C5=30C4.3099 30C7=30C6.3099 30C9=30C8.3099 30D0=30CF.3099 =30CF.309A 30D3=30D2.3099",
  "=30D2.309A 30D6=30D5.3099 =30D5.309A 30D9=30D8.3099 =30D8.309A 30DC=30DB.3099 =30DB.309A",
  "30F4=30A6.3099 30F7=30EF.3099 =30F0.3099 =30F1.3099 =30F2.3099 30FE=30FD.3099 105C9=105D2.307",
  "105E4=105DA.307 1109A=11099.110BA 1109C=1109B.110BA 110AB=110A5.110BA 1112E=11131.11127",
  "=11132.11127 1134B=11347.1133E =11347.11357 11383=11382.113C9 11385=11384.113BB",
  "1138E=1138B.113C2 11391=11390.113C9 113C5=113C2.113C2 113C7=113C2.113B8 =113C2.113C9",
  "114BB=114B9.114BA =114B9.114B0 114BE=114B9.114BD 115BA=115B8.115AF =115B9.115AF",
  "11938=11935.11930 16121=1611E.1611E =1611E.16129 =1611E.1611F =16129.1611F =1611E.16120",
  "=16121.1611F =16122.1611F =16121.16120 16D68=16D67.16D67 =16D63.16D67 =16D69.16D67"]

/-- The characters that are the same as others but are never put together from them. -/
private def sameEntries : List (Nat × List Nat) := readEntries [
  "340=300 =301 343=313 =308.301 374=2B9 37E=3B 387=B7 958=915.93C =916.93C =917.93C =91C.93C",
  "=921.93C =922.93C =92B.93C =92F.93C 9DC=9A1.9BC =9A2.9BC 9DF=9AF.9BC A33=A32.A3C A36=A38.A3C",
  "A59=A16.A3C =A17.A3C =A1C.A3C A5E=A2B.A3C B5C=B21.B3C =B22.B3C F43=F42.FB7 F4D=F4C.FB7",
  "F52=F51.FB7 F57=F56.FB7 F5C=F5B.FB7 F69=F40.FB5 F73=F71.F72 F75=F71.F74 =FB2.F80 F78=FB3.F80",
  "F81=F71.F80 F93=F92.FB7 F9D=F9C.FB7 FA2=FA1.FB7 FA7=FA6.FB7 FAC=FAB.FB7 FB9=F90.FB5",
  "1F71=3B1.301 1F73=3B5.301 1F75=3B7.301 1F77=3B9.301 1F79=3BF.301 1F7B=3C5.301 1F7D=3C9.301",
  "1FBB=391.301 1FBE=3B9 1FC9=395.301 1FCB=397.301 1FD3=3B9.308.301 1FDB=399.301 1FE3=3C5.308.301",
  "1FEB=3A5.301 1FEE=A8.301 =60 1FF9=39F.301 1FFB=3A9.301 1FFD=B4 2000=2002 =2003 2126=3A9",
  "212A=4B =41.30A 2329=3008 =3009 2ADC=2ADD.338 F900=8C48 =66F4 =8ECA =8CC8 =6ED1 =4E32 =53E5",
  "=9F9C =9F9C =5951 =91D1 =5587 =5948 =61F6 =7669 =7F85 =863F =87BA =88F8 =908F =6A02 =6D1B",
  "=70D9 =73DE =843D =916A =99F1 =4E82 =5375 =6B04 =721B =862D =9E1E =5D50 =6FEB =85CD =8964",
  "=62C9 =81D8 =881F =5ECA =6717 =6D6A =72FC =90CE =4F86 =51B7 =52DE =64C4 =6AD3 =7210 =76E7",
  "=8001 =8606 =865C =8DEF =9732 =9B6F =9DFA =788C =797F =7DA0 =83C9 =9304 =9E7F =8AD6 =58DF",
  "=5F04 =7C60 =807E =7262 =78CA =8CC2 =96F7 =58D8 =5C62 =6A13 =6DDA =6F0F =7D2F =7E37 =964B",
  "=52D2 =808B =51DC =51CC =7A1C =7DBE =83F1 =9675 =8B80 =62CF =6A02 =8AFE =4E39 =5BE7 =6012",
  "=7387 =7570 =5317 =78FB =4FBF =5FA9 =4E0D =6CCC =6578 =7D22 =53C3 =585E =7701 =8449 =8AAA",
  "=6BBA =8FB0 =6C88 =62FE =82E5 =63A0 =7565 =4EAE =5169 =51C9 =6881 =7CE7 =826F =8AD2 =91CF",
  "=52F5 =5442 =5973 =5EEC =65C5 =6FFE =792A =95AD =9A6A =9E97 =9ECE =529B =66C6 =6B77 =8F62",
  "=5E74 =6190 =6200 =649A =6F23 =7149 =7489 =79CA =7DF4 =806F =8F26 =84EE =9023 =934A =5217",
  "=52A3 =54BD =70C8 =88C2 =8AAA =5EC9 =5FF5 =637B =6BAE =7C3E =7375 =4EE4 =56F9 =5BE7 =5DBA",
  "=601C =73B2 =7469 =7F9A =8046 =9234 =96F6 =9748 =9818 =4F8B =79AE =91B4 =96B8 =60E1 =4E86",
  "=50DA =5BEE =5C3F =6599 =6A02 =71CE =7642 =84FC =907C =9F8D =6688 =962E =5289 =677B =67F3",
  "=6D41 =6E9C =7409 =7559 =786B =7D10 =985E =516D =622E =9678 =502B =5D19 =6DEA =8F2A =5F8B",
  "=6144 =6817 =7387 =9686 =5229 =540F =5C65 =6613 =674E =68A8 =6CE5 =7406 =75E2 =7F79 =88CF",
  "=88E1 =91CC =96E2 =533F =6EBA =541D =71D0 =7498 =85FA =96A3 =9C57 =9E9F =6797 =6DCB =81E8",
  "=7ACB =7B20 =7C92 =72C0 =7099 =8B58 =4EC0 =8336 =523A =5207 =5EA6 =62D3 =7CD6 =5B85 =6D1E",
  "=66B4 =8F3B =884C =964D =898B =5ED3 =5140 =55C0 FA10=585A FA12=6674 FA15=51DE =732A =76CA",
  "=793C =795E =7965 =798F =9756 =7CBE =7FBD FA20=8612 FA22=8AF8 FA25=9038 =90FD FA2A=98EF =98FC",
  "=9928 =9DB4 =90DE =96B7 =4FAE =50E7 =514D =52C9 =52E4 =5351 =559D =5606 =5668 =5840 =58A8",
  "=5C64 =5C6E =6094 =6168 =618E =61F2 =654F =65E2 =6691 =6885 =6D77 =6E1A =6F22 =716E =722B",
  "=7422 =7891 =793E =7949 =7948 =7950 =7956 =795D =798D =798E =7A40 =7A81 =7BC0 =7DF4 =7E09",
  "=7E41 =7F72 =8005 =81ED =8279 =8279 =8457 =8910 =8996 =8B01 =8B39 =8CD3 =8D08 =8FB6 =9038",
  "=96E3 =97FF =983B =6075 =242EE =8218 FA70=4E26 =51B5 =5168 =4F80 =5145 =5180 =52C7 =52FA =559D",
  "=5555 =5599 =55E2 =585A =58B3 =5944 =5954 =5A62 =5B28 =5ED2 =5ED9 =5F69 =5FAD =60D8 =614E",
  "=6108 =618E =6160 =61F2 =6234 =63C4 =641C =6452 =6556 =6674 =6717 =671B =6756 =6B79 =6BBA",
  "=6D41 =6EDB =6ECB =6F22 =701E =716E =77A7 =7235 =72AF =732A =7471 =7506 =753B =761D =761F",
  "=76CA =76DB =76F4 =774A =7740 =78CC =7AB1 =7BC0 =7C7B =7D5B =7DF4 =7F3E =8005 =8352 =83EF",
  "=8779 =8941 =8986 =8996 =8ABF =8AF8 =8ACB =8B01 =8AFE =8AED =8B39 =8B8A =8D08 =8F38 =9072",
  "=9199 =9276 =967C =96E3 =9756 =97DB =97FF =980B =983B =9B12 =9F9C =2284A =22844 =233D5 =3B9D",
  "=4018 =4039 =25249 =25CD0 =27ED3 =9F43 =9F8E FB1D=5D9.5B4 FB1F=5F2.5B7 FB2A=5E9.5C1 =5E9.5C2",
  "=5E9.5BC.5C1 =5E9.5BC.5C2 =5D0.5B7 =5D0.5B8 =5D0.5BC =5D1.5BC =5D2.5BC =5D3.5BC =5D4.5BC",
  "=5D5.5BC =5D6.5BC FB38=5D8.5BC =5D9.5BC =5DA.5BC =5DB.5BC =5DC.5BC FB3E=5DE.5BC FB40=5E0.5BC",
  "=5E1.5BC FB43=5E3.5BC =5E4.5BC FB46=5E6.5BC =5E7.5BC =5E8.5BC =5E9.5BC =5EA.5BC =5D5.5B9",
  "=5D1.5BF =5DB.5BF =5E4.5BF 1D15E=1D157.1D165 =1D158.1D165 =1D158.1D165.1D16E",
  "=1D158.1D165.1D16F =1D158.1D165.1D170 =1D158.1D165.1D171 =1D158.1D165.1D172 1D1BB=1D1B9.1D165",
  "=1D1BA.1D165 =1D1B9.1D165.1D16E =1D1BA.1D165.1D16E =1D1B9.1D165.1D16F =1D1BA.1D165.1D16F",
  "2F800=4E3D =4E38 =4E41 =20122 =4F60 =4FAE =4FBB =5002 =507A =5099 =50E7 =50CF =349E =2063A",
  "=514D =5154 =5164 =5177 =2051C =34B9 =5167 =518D =2054B =5197 =51A4 =4ECC =51AC =51B5 =291DF",
  "=51F5 =5203 =34DF =523B =5246 =5272 =5277 =3515 =52C7 =52C9 =52E4 =52FA =5305 =5306 =5317",
  "=5349 =5351 =535A =5373 =537D =537F =537F =537F =20A2C =7070 =53CA =53DF =20B63 =53EB =53F1",
  "=5406 =549E =5438 =5448 =5468 =54A2 =54F6 =5510 =5553 =5563 =5584 =5584 =5599 =55AB =55B3",
  "=55C2 =5716 =5606 =5717 =5651 =5674 =5207 =58EE =57CE =57F4 =580D =578B =5832 =5831 =58AC",
  "=214E4 =58F2 =58F7 =5906 =591A =5922 =5962 =216A8 =216EA =59EC =5A1B =5A27 =59D8 =5A66 =36EE",
  "=36FC =5B08 =5B3E =5B3E =219C8 =5BC3 =5BD8 =5BE7 =5BF3 =21B18 =5BFF =5C06 =5F53 =5C22 =3781",
  "=5C60 =5C6E =5CC0 =5C8D =21DE4 =5D43 =21DE6 =5D6E =5D6B =5D7C =5DE1 =5DE2 =382F =5DFD =5E28",
  "=5E3D =5E69 =3862 =22183 =387C =5EB0 =5EB3 =5EB6 =5ECA =2A392 =5EFE =22331 =22331 =8201 =5F22",
  "=5F22 =38C7 =232B8 =261DA =5F62 =5F6B =38E3 =5F9A =5FCD =5FD7 =5FF9 =6081 =393A =391C =6094",
  "=226D4 =60C7 =6148 =614C =614E =614C =617A =618E =61B2 =61A4 =61AF =61DE =61F2 =61F6 =6210",
  "=621B =625D =62B1 =62D4 =6350 =22B0C =633D =62FC =6368 =6383 =63E4 =22BF1 =6422 =63C5 =63A9",
  "=3A2E =6469 =647E =649D =6477 =3A6C =654F =656C =2300A =65E3 =66F8 =6649 =3B19 =6691 =3B08",
  "=3AE4 =5192 =5195 =6700 =669C =80AD =43D9 =6717 =671B =6721 =675E =6753 =233C3 =3B49 =67FA",
  "=6785 =6852 =6885 =2346D =688E =681F =6914 =3B9D =6942 =69A3 =69EA =6AA8 =236A3 =6ADB =3C18",
  "=6B21 =238A7 =6B54 =3C4E =6B72 =6B9F =6BBA =6BBB =23A8D =21D0B =23AFA =6C4E =23CBC =6CBF =6CCD",
  "=6C67 =6D16 =6D3E =6D77 =6D41 =6D69 =6D78 =6D85 =23D1E =6D34 =6E2F =6E6E =3D33 =6ECB =6EC7",
  "=23ED1 =6DF9 =6F6E =23F5E =23F8E =6FC6 =7039 =701E =701B =3D96 =704A =707D =7077 =70AD =20525",
  "=7145 =24263 =719C =243AB =7228 =7235 =7250 =24608 =7280 =7295 =24735 =24814 =737A =738B =3EAC",
  "=73A5 =3EB8 =3EB8 =7447 =745C =7471 =7485 =74CA =3F1B =7524 =24C36 =753E =24C92 =7570 =2219F",
  "=7610 =24FA1 =24FB8 =25044 =3FFC =4008 =76F4 =250F3 =250F2 =25119 =25133 =771E =771F =771F",
  "=774A =4039 =778B =4046 =4096 =2541D =784E =788C =78CC =40E3 =25626 =7956 =2569A =256C5 =798F",
  "=79EB =412F =7A40 =7A4A =7A4F =2597C =25AA7 =25AA7 =7AEE =4202 =25BAB =7BC6 =7BC9 =4227 =25C80",
  "=7CD2 =42A0 =7CE8 =7CE3 =7D00 =25F86 =7D63 =4301 =7DC7 =7E02 =7E45 =4334 =26228 =26247 =4359",
  "=262D9 =7F7A =2633E =7F95 =7FFA =8005 =264DA =26523 =8060 =265A8 =8070 =2335F =43D5 =80B2",
  "=8103 =440B =813E =5AB5 =267A7 =267B5 =23393 =2339C =8201 =8204 =8F9E =446B =8291 =828B =829D",
  "=52B3 =82B1 =82B3 =82BD =82E6 =26B3C =82E5 =831D =8363 =83AD =8323 =83BD =83E7 =8457 =8353",
  "=83CA =83CC =83DC =26C36 =26D6B =26CD5 =452B =84F1 =84F3 =8516 =273CA =8564 =26F2C =455D =4561",
  "=26FB1 =270D2 =456B =8650 =865C =8667 =8669 =86A9 =8688 =870E =86E2 =8779 =8728 =876B =8786",
  "=45D7 =87E1 =8801 =45F9 =8860 =8863 =27667 =88D7 =88DE =4635 =88FA =34BB =278AE =27966 =46BE",
  "=46C7 =8AA0 =8AED =8B8A =8C55 =27CA8 =8CAB =8CC1 =8D1B =8D77 =27F2F =20804 =8DCB =8DBC =8DF0",
  "=208DE =8ED4 =8F38 =285D2 =285ED =9094 =90F1 =9111 =2872E =911B =9238 =92D7 =92D8 =927C =93F9",
  "=9415 =28BFA =958B =4995 =95B7 =28D77 =49E6 =96C3 =5DB2 =9723 =29145 =2921A =4A6E =4A76 =97E0",
  "=2940A =4AB2 =29496 =980B =980B =9829 =295B6 =98E2 =4B33 =9929 =99A7 =99C2 =99FE =4BCE =29B30",
  "=9B12 =9C40 =9CFD =4CCE =4CED =9D67 =2A0CE =4CF8 =2A105 =2A20E =2A291 =9EBB =4D56 =9EF9 =9EFE",
  "=9F05 =9F0F =9F16 =9F3B =2A600"]

private def formEntries : List (Nat × List Nat) := readEntries [
  "A0=20 A8=20.308 AA=61 AF=20.304 B2=32 =33 =20.301 =3BC B8=20.327 =31 =6F BC=31.2044.34",
  "=31.2044.32 =33.2044.34 132=49.4A =69.6A 13F=4C.B7 =6C.B7 149=2BC.6E 17F=73 1C4=44.5A.30C",
  "=44.7A.30C =64.7A.30C =4C.4A =4C.6A =6C.6A =4E.4A =4E.6A =6E.6A 1F1=44.5A =44.7A =64.7A 2B0=68",
  "=266 =6A =72 =279 =27B =281 =77 =79 2D8=20.306 =20.307 =20.30A =20.328 =20.303 =20.30B 2E0=263",
  "=6C =73 =78 =295 37A=20.345 384=20.301 3D0=3B2 =3B8 =3A5 3D5=3C6 =3C0 3F0=3BA =3C1 =3C2",
  "3F4=398 =3B5 3F9=3A3 587=565.582 675=627.674 =648.674 =6C7.674 =64A.674 E33=E4D.E32",
  "EB3=ECD.EB2 EDC=EAB.E99 =EAB.EA1 F0C=F0B F77=FB2.F71.F80 F79=FB3.F71.F80 10FC=10DC 1D2C=41 =C6",
  "=42 1D30=44 =45 =18E 1D33-1D3A=47 1D3C=4F =222 =50 =52 =54 =55 =57 =61 =250 =251 =1D02 =62 =64",
  "=65 =259 =25B =25C =67 1D4F=6B =6D =14B =6F =254 =1D16 =1D17 =70 =74 =75 =1D1D =26F =76 =1D25",
  "1D5D-1D5F=3B2 =3C6 =3C7 =69 =72 =75 =76 =3B2 =3B3 =3C1 =3C6 =3C7 1D78=43D 1D9B=252 =63 =255",
  "=F0 =25C =66 =25F =261 =265 1DA4-1DA6=268 =1D7B =29D =26D =1D85 =29F =271 =270 1DAE-1DB1=272",
  "=278 =282 =283 =1AB =289 =28A =1D1C =28B =28C =7A 1DBC-1DBE=290 =3B8 1E9A=61.2BE 1FBD=20.313",
  "1FBF=20.313 =20.342 1FFE=20.314 2002=20 =20 =20 =20 =20 =20 =20 =20 =20 2011=2010 2017=20.333",
  "2024=2E =2E.2E =2E.2E.2E 202F=20 2033=2032.2032 =2032.2032.2032 2036=2035.2035 =2035.2035.2035",
  "203C=21.21 203E=20.305 2047=3F.3F =3F.21 =21.3F 2057=2032.2032.2032.2032 205F=20 2070=30 =69",
  "2074-2079=34 =2B =2212 =3D =28 =29 =6E 2080-2089=30 =2B =2212 =3D =28 =29 2090=61 =65 =6F =78",
  "=259 =68 2096-2099=6B =70 =73 =74 20A8=52.73 2100=61.2F.63 =61.2F.73 =43 =B0.43 2105=63.2F.6F",
  "=63.2F.75 =190 2109=B0.46 =67 =48 =48 =48 =68 =127 =49 =49 =4C =6C 2115=4E =4E.6F 2119-211B=50",
  "=52 =52 2120=53.4D =54.45.4C =54.4D 2124=5A 2128=5A 212C=42 =43 212F=65 =45 =46 2133=4D =6F",
  "2135-2138=5D0 =69 213B=46.41.58 =3C0 =3B3 =393 =3A0 =2211 2145=44 =64 =65 =69 =6A",
  "2150=31.2044.37 =31.2044.39 =31.2044.31.30 =31.2044.33 =32.2044.33 =31.2044.35 =32.2044.35",
  "=33.2044.35 =34.2044.35 =31.2044.36 =35.2044.36 =31.2044.38 =33.2044.38 =35.2044.38",
  "=37.2044.38 =31.2044 =49 =49.49 =49.49.49 =49.56 =56 =56.49 =56.49.49 =56.49.49.49 =49.58 =58",
  "=58.49 =58.49.49 =4C =43 =44 =4D =69 =69.69 =69.69.69 =69.76 =76 =76.69 =76.69.69 =76.69.69.69",
  "=69.78 =78 =78.69 =78.69.69 =6C =63 =64 =6D 2189=30.2044.33 222C=222B.222B =222B.222B.222B",
  "222F=222E.222E =222E.222E.222E 2460-2468=31 =31.30 =31.31 =31.32 =31.33 =31.34 =31.35 =31.36",
  "=31.37 =31.38 =31.39 =32.30 =28.31.29 =28.32.29 =28.33.29 =28.34.29 =28.35.29 =28.36.29",
  "=28.37.29 =28.38.29 =28.39.29 =28.31.30.29 =28.31.31.29 =28.31.32.29 =28.31.33.29 =28.31.34.29",
  "=28.31.35.29 =28.31.36.29 =28.31.37.29 =28.31.38.29 =28.31.39.29 =28.32.30.29 =31.2E =32.2E",
  "=33.2E =34.2E =35.2E =36.2E =37.2E =38.2E =39.2E =31.30.2E =31.31.2E =31.32.2E =31.33.2E",
  "=31.34.2E =31.35.2E =31.36.2E =31.37.2E =31.38.2E =31.39.2E =32.30.2E =28.61.29 =28.62.29",
  "=28.63.29 =28.64.29 =28.65.29 =28.66.29 =28.67.29 =28.68.29 =28.69.29 =28.6A.29 =28.6B.29",
  "=28.6C.29 =28.6D.29 =28.6E.29 =28.6F.29 =28.70.29 =28.71.29 =28.72.29 =28.73.29 =28.74.29",
  "=28.75.29 =28.76.29 =28.77.29 =28.78.29 =28.79.29 =28.7A.29 24B6-24CF=41 24D0-24E9=61 =30",
  "2A0C=222B.222B.222B.222B 2A74=3A.3A.3D =3D.3D =3D.3D.3D 2C7C=6A =56 2D6F=2D61 2E9F=6BCD",
  "2EF3=9F9F 2F00=4E00 =4E28 =4E36 =4E3F =4E59 =4E85 =4E8C =4EA0 =4EBA =513F =5165 =516B =5182",
  "=5196 =51AB =51E0 =51F5 =5200 =529B =52F9 =5315 =531A =5338 =5341 =535C =5369 =5382 =53B6",
  "=53C8 =53E3 =56D7 =571F =58EB =5902 =590A =5915 =5927 =5973 =5B50 =5B80 =5BF8 =5C0F =5C22",
  "=5C38 =5C6E =5C71 =5DDB =5DE5 =5DF1 =5DFE =5E72 =5E7A =5E7F =5EF4 =5EFE =5F0B =5F13 =5F50",
  "=5F61 =5F73 =5FC3 =6208 =6236 =624B =652F =6534 =6587 =6597 =65A4 =65B9 =65E0 =65E5 =66F0",
  "=6708 =6728 =6B20 =6B62 =6B79 =6BB3 =6BCB =6BD4 =6BDB =6C0F =6C14 =6C34 =706B =722A =7236",
  "=723B =723F =7247 =7259 =725B =72AC =7384 =7389 =74DC =74E6 =7518 =751F =7528 =7530 =758B",
  "=7592 =7676 =767D =76AE =76BF =76EE =77DB =77E2 =77F3 =793A =79B8 =79BE =7A74 =7ACB =7AF9",
  "=7C73 =7CF8 =7F36 =7F51 =7F8A =7FBD =8001 =800C =8012 =8033 =807F =8089 =81E3 =81EA =81F3",
  "=81FC =820C =821B =821F =826E =8272 =8278 =864D =866B =8840 =884C =8863 =897E =898B =89D2",
  "=8A00 =8C37 =8C46 =8C55 =8C78 =8C9D =8D64 =8D70 =8DB3 =8EAB =8ECA =8F9B =8FB0 =8FB5 =9091",
  "=9149 =91C6 =91CC =91D1 =9577 =9580 =961C =96B6 =96B9 =96E8 =9751 =975E =9762 =9769 =97CB",
  "=97ED =97F3 =9801 =98A8 =98DB =98DF =9996 =9999 =99AC =9AA8 =9AD8 =9ADF =9B25 =9B2F =9B32",
  "=9B3C =9B5A =9CE5 =9E75 =9E7F =9EA5 =9EBB =9EC3 =9ECD =9ED1 =9EF9 =9EFD =9F0E =9F13 =9F20",
  "=9F3B =9F4A =9F52 =9F8D =9F9C =9FA0 3000=20 3036=3012 3038=5341 =5344 =5345 309B=20.3099",
  "=20.309A 309F=3088.308A 30FF=30B3.30C8 3131=1100 =1101 =11AA =1102 =11AC =11AD 3137-3139=1103",
  "313A-313F=11B0 =111A 3141-3143=1106 =1121 3145-314E=1109 314F-3163=1161 =1160 =1114 =1115",
  "=11C7 =11C8 =11CC =11CE =11D3 =11D7 =11D9 =111C =11DD =11DF =111D =111E =1120 =1122 =1123",
  "=1127 =1129 3178-317C=112B =1132 =1136 =1140 =1147 =114C =11F1 =11F2 3184-3186=1157 =1184",
  "=1185 =1188 =1191 =1192 =1194 =119E =11A1 3192=4E00 =4E8C =4E09 =56DB =4E0A =4E2D =4E0B =7532",
  "=4E59 =4E19 =4E01 =5929 =5730 =4EBA 3200=28.1100.29 =28.1102.29 =28.1103.29 =28.1105.29",
  "=28.1106.29 =28.1107.29 =28.1109.29 =28.110B.29 =28.110C.29 =28.110E.29 =28.110F.29",
  "=28.1110.29 =28.1111.29 =28.1112.29 =28.1100.1161.29 =28.1102.1161.29 =28.1103.1161.29",
  "=28.1105.1161.29 =28.1106.1161.29 =28.1107.1161.29 =28.1109.1161.29 =28.110B.1161.29",
  "=28.110C.1161.29 =28.110E.1161.29 =28.110F.1161.29 =28.1110.1161.29 =28.1111.1161.29",
  "=28.1112.1161.29 =28.110C.116E.29 =28.110B.1169.110C.1165.11AB.29 =28.110B.1169.1112.116E.29",
  "3220=28.4E00.29 =28.4E8C.29 =28.4E09.29 =28.56DB.29 =28.4E94.29 =28.516D.29 =28.4E03.29",
  "=28.516B.29 =28.4E5D.29 =28.5341.29 =28.6708.29 =28.706B.29 =28.6C34.29 =28.6728.29",
  "=28.91D1.29 =28.571F.29 =28.65E5.29 =28.682A.29 =28.6709.29 =28.793E.29 =28.540D.29",
  "=28.7279.29 =28.8CA1.29 =28.795D.29 =28.52B4.29 =28.4EE3.29 =28.547C.29 =28.5B66.29",
  "=28.76E3.29 =28.4F01.29 =28.8CC7.29 =28.5354.29 =28.796D.29 =28.4F11.29 =28.81EA.29",
  "=28.81F3.29 =554F =5E7C =6587 =7B8F 3250=50.54.45 =32.31 =32.32 =32.33 =32.34 =32.35 =32.36",
  "=32.37 =32.38 =32.39 =33.30 =33.31 =33.32 =33.33 =33.34 =33.35 =1100 =1102 =1103",
  "3263-3265=1105 =1109 =110B =110C 3269-326D=110E =1100.1161 =1102.1161 =1103.1161 =1105.1161",
  "=1106.1161 =1107.1161 =1109.1161 =110B.1161 =110C.1161 =110E.1161 =110F.1161 =1110.1161",
  "=1111.1161 =1112.1161 =110E.1161.11B7.1100.1169 =110C.116E.110B.1174 =110B.116E 3280=4E00",
  "=4E8C =4E09 =56DB =4E94 =516D =4E03 =516B =4E5D =5341 =6708 =706B =6C34 =6728 =91D1 =571F",
  "=65E5 =682A =6709 =793E =540D =7279 =8CA1 =795D =52B4 =79D8 =7537 =5973 =9069 =512A =5370",
  "=6CE8 =9805 =4F11 =5199 =6B63 =4E0A =4E2D =4E0B =5DE6 =53F3 =533B =5B97 =5B66 =76E3 =4F01",
  "=8CC7 =5354 =591C =33.36 =33.37 =33.38 =33.39 =34.30 =34.31 =34.32 =34.33 =34.34 =34.35 =34.36",
  "=34.37 =34.38 =34.39 =35.30 =31.6708 =32.6708 =33.6708 =34.6708 =35.6708 =36.6708 =37.6708",
  "=38.6708 =39.6708 =31.30.6708 =31.31.6708 =31.32.6708 =48.67 =65.72.67 =65.56 =4C.54.44 =30A2",
  "=30A4 =30A6 =30A8 =30AA =30AB =30AD =30AF =30B1 =30B3 =30B5 =30B7 =30B9 =30BB =30BD =30BF",
  "=30C1 =30C4 =30C6 =30C8 32E4-32E9=30CA =30D2 =30D5 =30D8 =30DB 32EE-32F2=30DE =30E4 =30E6",
  "32F5-32FA=30E8 32FB-32FE=30EF =4EE4.548C =30A2.30CF.309A.30FC.30C8 =30A2.30EB.30D5.30A1",
  "=30A2.30F3.30D8.309A.30A2 =30A2.30FC.30EB =30A4.30CB.30F3.30AF.3099 =30A4.30F3.30C1",
  "=30A6.30A9.30F3 =30A8.30B9.30AF.30FC.30C8.3099 =30A8.30FC.30AB.30FC =30AA.30F3.30B9",
  "=30AA.30FC.30E0 =30AB.30A4.30EA =30AB.30E9.30C3.30C8 =30AB.30ED.30EA.30FC =30AB.3099.30ED.30F3",
  "=30AB.3099.30F3.30DE =30AD.3099.30AB.3099 =30AD.3099.30CB.30FC =30AD.30E5.30EA.30FC",
  "=30AD.3099.30EB.30BF.3099.30FC =30AD.30ED =30AD.30ED.30AF.3099.30E9.30E0",
  "=30AD.30ED.30E1.30FC.30C8.30EB =30AD.30ED.30EF.30C3.30C8 =30AF.3099.30E9.30E0",
  "=30AF.3099.30E9.30E0.30C8.30F3 =30AF.30EB.30BB.3099.30A4.30ED =30AF.30ED.30FC.30CD",
  "=30B1.30FC.30B9 =30B3.30EB.30CA =30B3.30FC.30DB.309A =30B5.30A4.30AF.30EB",
  "=30B5.30F3.30C1.30FC.30E0 =30B7.30EA.30F3.30AF.3099 =30BB.30F3.30C1 =30BB.30F3.30C8",
  "=30BF.3099.30FC.30B9 =30C6.3099.30B7 =30C8.3099.30EB =30C8.30F3 =30CA.30CE =30CE.30C3.30C8",
  "=30CF.30A4.30C4 =30CF.309A.30FC.30BB.30F3.30C8 =30CF.309A.30FC.30C4 =30CF.3099.30FC.30EC.30EB",
  "=30D2.309A.30A2.30B9.30C8.30EB =30D2.309A.30AF.30EB =30D2.309A.30B3 =30D2.3099.30EB",
  "=30D5.30A1.30E9.30C3.30C8.3099 =30D5.30A3.30FC.30C8 =30D5.3099.30C3.30B7.30A7.30EB",
  "=30D5.30E9.30F3 =30D8.30AF.30BF.30FC.30EB =30D8.309A.30BD =30D8.309A.30CB.30D2 =30D8.30EB.30C4",
  "=30D8.309A.30F3.30B9 =30D8.309A.30FC.30B7.3099 =30D8.3099.30FC.30BF =30DB.309A.30A4.30F3.30C8",
  "=30DB.3099.30EB.30C8 =30DB.30F3 =30DB.309A.30F3.30C8.3099 =30DB.30FC.30EB =30DB.30FC.30F3",
  "=30DE.30A4.30AF.30ED =30DE.30A4.30EB =30DE.30C3.30CF =30DE.30EB.30AF =30DE.30F3.30B7.30E7.30F3",
  "=30DF.30AF.30ED.30F3 =30DF.30EA =30DF.30EA.30CF.3099.30FC.30EB =30E1.30AB.3099",
  "=30E1.30AB.3099.30C8.30F3 =30E1.30FC.30C8.30EB =30E4.30FC.30C8.3099 =30E4.30FC.30EB",
  "=30E6.30A2.30F3 =30EA.30C3.30C8.30EB =30EA.30E9 =30EB.30D2.309A.30FC =30EB.30FC.30D5.3099.30EB",
  "=30EC.30E0 =30EC.30F3.30C8.30B1.3099.30F3 =30EF.30C3.30C8 =30.70B9 =31.70B9 =32.70B9 =33.70B9",
  "=34.70B9 =35.70B9 =36.70B9 =37.70B9 =38.70B9 =39.70B9 =31.30.70B9 =31.31.70B9 =31.32.70B9",
  "=31.33.70B9 =31.34.70B9 =31.35.70B9 =31.36.70B9 =31.37.70B9 =31.38.70B9 =31.39.70B9",
  "=32.30.70B9 =32.31.70B9 =32.32.70B9 =32.33.70B9 =32.34.70B9 =68.50.61 =64.61 =41.55 =62.61.72",
  "=6F.56 =70.63 =64.6D =64.6D.32 =64.6D.33 =49.55 =5E73.6210 =662D.548C =5927.6B63 =660E.6CBB",
  "=682A.5F0F.4F1A.793E =70.41 =6E.41 =3BC.41 =6D.41 =6B.41 =4B.42 =4D.42 =47.42 =63.61.6C",
  "=6B.63.61.6C =70.46 =6E.46 =3BC.46 =3BC.67 =6D.67 =6B.67 =48.7A =6B.48.7A =4D.48.7A =47.48.7A",
  "=54.48.7A =3BC.6C =6D.6C =64.6C =6B.6C =66.6D =6E.6D =3BC.6D =6D.6D =63.6D =6B.6D =6D.6D.32",
  "=63.6D.32 =6D.32 =6B.6D.32 =6D.6D.33 =63.6D.33 =6D.33 =6B.6D.33 =6D.2215.73 =6D.2215.73.32",
  "=50.61 =6B.50.61 =4D.50.61 =47.50.61 =72.61.64 =72.61.64.2215.73 =72.61.64.2215.73.32 =70.73",
  "=6E.73 =3BC.73 =6D.73 =70.56 =6E.56 =3BC.56 =6D.56 =6B.56 =4D.56 =70.57 =6E.57 =3BC.57 =6D.57",
  "=6B.57 =4D.57 =6B.3A9 =4D.3A9 =61.2E.6D.2E =42.71 =63.63 =63.64 =43.2215.6B.67 =43.6F.2E",
  "=64.42 =47.79 =68.61 =48.50 =69.6E =4B.4B =4B.4D =6B.74 =6C.6D =6C.6E =6C.6F.67 =6C.78 =6D.62",
  "=6D.69.6C =6D.6F.6C =50.48 =70.2E.6D.2E =50.50.4D =50.52 =73.72 =53.76 =57.62 =56.2215.6D",
  "=41.2215.6D =31.65E5 =32.65E5 =33.65E5 =34.65E5 =35.65E5 =36.65E5 =37.65E5 =38.65E5 =39.65E5",
  "=31.30.65E5 =31.31.65E5 =31.32.65E5 =31.33.65E5 =31.34.65E5 =31.35.65E5 =31.36.65E5",
  "=31.37.65E5 =31.38.65E5 =31.39.65E5 =32.30.65E5 =32.31.65E5 =32.32.65E5 =32.33.65E5",
  "=32.34.65E5 =32.35.65E5 =32.36.65E5 =32.37.65E5 =32.38.65E5 =32.39.65E5 =33.30.65E5",
  "=33.31.65E5 =67.61.6C A69C=44A =44C A770=A76F A7F2=43 =46 =51 A7F8=126 =153 AB5C=A727 =AB37",
  "=26B =AB52 AB69=28D FB00=66.66 =66.69 =66.6C =66.66.69 =66.66.6C =73.74 =73.74 FB13=574.576",
  "=574.565 =574.56B =57E.576 =574.56D FB20=5E2 =5D0 =5D3 =5D4 FB24-FB26=5DB =5E8 =5EA =2B",
  "FB4F=5D0.5DC =671 =671 =67B =67B =67B =67B =67E =67E =67E =67E =680 =680 =680 =680 =67A =67A",
  "=67A =67A =67F =67F =67F =67F =679 =679 =679 =679 =6A4 =6A4 =6A4 =6A4 =6A6 =6A6 =6A6 =6A6 =684",
  "=684 =684 =684 =683 =683 =683 =683 =686 =686 =686 =686 =687 =687 =687 =687 =68D =68D =68C =68C",
  "=68E =68E =688 =688 =698 =698 =691 =691 =6A9 =6A9 =6A9 =6A9 =6AF =6AF =6AF =6AF =6B3 =6B3 =6B3",
  "=6B3 =6B1 =6B1 =6B1 =6B1 =6BA =6BA =6BB =6BB =6BB =6BB =6D5.654 =6D5.654 =6C1 =6C1 =6C1 =6C1",
  "=6BE =6BE =6BE =6BE =6D2 =6D2 =6D2.654 =6D2.654 FBD3=6AD =6AD =6AD =6AD =6C7 =6C7 =6C6 =6C6",
  "=6C8 =6C8 =6C7.674 =6CB =6CB =6C5 =6C5 =6C9 =6C9 =6D0 =6D0 =6D0 =6D0 =649 =649 =64A.654.627",
  "=64A.654.627 =64A.654.6D5 =64A.654.6D5 =64A.654.648 =64A.654.648 =64A.654.6C7 =64A.654.6C7",
  "=64A.654.6C6 =64A.654.6C6 =64A.654.6C8 =64A.654.6C8 =64A.654.6D0 =64A.654.6D0 =64A.654.6D0",
  "=64A.654.649 =64A.654.649 =64A.654.649 =6CC =6CC =6CC =6CC =64A.654.62C =64A.654.62D",
  "=64A.654.645 =64A.654.649 =64A.654.64A =628.62C =628.62D =628.62E =628.645 =628.649 =628.64A",
  "=62A.62C =62A.62D =62A.62E =62A.645 =62A.649 =62A.64A =62B.62C =62B.645 =62B.649 =62B.64A",
  "=62C.62D =62C.645 =62D.62C =62D.645 =62E.62C =62E.62D =62E.645 =633.62C =633.62D =633.62E",
  "=633.645 =635.62D =635.645 =636.62C =636.62D =636.62E =636.645 =637.62D =637.645 =638.645",
  "=639.62C =639.645 =63A.62C =63A.645 =641.62C =641.62D =641.62E =641.645 =641.649 =641.64A",
  "=642.62D =642.645 =642.649 =642.64A =643.627 =643.62C =643.62D =643.62E =643.644 =643.645",
  "=643.649 =643.64A =644.62C =644.62D =644.62E =644.645 =644.649 =644.64A =645.62C =645.62D",
  "=645.62E =645.645 =645.649 =645.64A =646.62C =646.62D =646.62E =646.645 =646.649 =646.64A",
  "=647.62C =647.645 =647.649 =647.64A =64A.62C =64A.62D =64A.62E =64A.645 =64A.649 =64A.64A",
  "=630.670 =631.670 =649.670 =20.64C.651 =20.64D.651 =20.64E.651 =20.64F.651 =20.650.651",
  "=20.651.670 =64A.654.631 =64A.654.632 =64A.654.645 =64A.654.646 =64A.654.649 =64A.654.64A",
  "=628.631 =628.632 =628.645 =628.646 =628.649 =628.64A =62A.631 =62A.632 =62A.645 =62A.646",
  "=62A.649 =62A.64A =62B.631 =62B.632 =62B.645 =62B.646 =62B.649 =62B.64A =641.649 =641.64A",
  "=642.649 =642.64A =643.627 =643.644 =643.645 =643.649 =643.64A =644.645 =644.649 =644.64A",
  "=645.627 =645.645 =646.631 =646.632 =646.645 =646.646 =646.649 =646.64A =649.670 =64A.631",
  "=64A.632 =64A.645 =64A.646 =64A.649 =64A.64A =64A.654.62C =64A.654.62D =64A.654.62E",
  "=64A.654.645 =64A.654.647 =628.62C =628.62D =628.62E =628.645 =628.647 =62A.62C =62A.62D",
  "=62A.62E =62A.645 =62A.647 =62B.645 =62C.62D =62C.645 =62D.62C =62D.645 =62E.62C =62E.645",
  "=633.62C =633.62D =633.62E =633.645 =635.62D =635.62E =635.645 =636.62C =636.62D =636.62E",
  "=636.645 =637.62D =638.645 =639.62C =639.645 =63A.62C =63A.645 =641.62C =641.62D =641.62E",
  "=641.645 =642.62D =642.645 =643.62C =643.62D =643.62E =643.644 =643.645 =644.62C =644.62D",
  "=644.62E =644.645 =644.647 =645.62C =645.62D =645.62E =645.645 =646.62C =646.62D =646.62E",
  "=646.645 =646.647 =647.62C =647.645 =647.670 =64A.62C =64A.62D =64A.62E =64A.645 =64A.647",
  "=64A.654.645 =64A.654.647 =628.645 =628.647 =62A.645 =62A.647 =62B.645 =62B.647 =633.645",
  "=633.647 =634.645 =634.647 =643.644 =643.645 =644.645 =646.645 =646.647 =64A.645 =64A.647",
  "=640.64E.651 =640.64F.651 =640.650.651 =637.649 =637.64A =639.649 =639.64A =63A.649 =63A.64A",
  "=633.649 =633.64A =634.649 =634.64A =62D.649 =62D.64A =62C.649 =62C.64A =62E.649 =62E.64A",
  "=635.649 =635.64A =636.649 =636.64A =634.62C =634.62D =634.62E =634.645 =634.631 =633.631",
  "=635.631 =636.631 =637.649 =637.64A =639.649 =639.64A =63A.649 =63A.64A =633.649 =633.64A",
  "=634.649 =634.64A =62D.649 =62D.64A =62C.649 =62C.64A =62E.649 =62E.64A =635.649 =635.64A",
  "=636.649 =636.64A =634.62C =634.62D =634.62E =634.645 =634.631 =633.631 =635.631 =636.631",
  "=634.62C =634.62D =634.62E =634.645 =633.647 =634.647 =637.645 =633.62C =633.62D =633.62E",
  "=634.62C =634.62D =634.62E =637.645 =638.645 =627.64B =627.64B FD50=62A.62C.645 =62A.62D.62C",
  "=62A.62D.62C =62A.62D.645 =62A.62E.645 =62A.645.62C =62A.645.62D =62A.645.62E =62C.645.62D",
  "=62C.645.62D =62D.645.64A =62D.645.649 =633.62D.62C =633.62C.62D =633.62C.649 =633.645.62D",
  "=633.645.62D =633.645.62C =633.645.645 =633.645.645 =635.62D.62D =635.62D.62D =635.645.645",
  "=634.62D.645 =634.62D.645 =634.62C.64A =634.645.62E =634.645.62E =634.645.645 =634.645.645",
  "=636.62D.649 =636.62E.645 =636.62E.645 =637.645.62D =637.645.62D =637.645.645 =637.645.64A",
  "=639.62C.645 =639.645.645 =639.645.645 =639.645.649 =63A.645.645 =63A.645.64A =63A.645.649",
  "=641.62E.645 =641.62E.645 =642.645.62D =642.645.645 =644.62D.645 =644.62D.64A =644.62D.649",
  "=644.62C.62C =644.62C.62C =644.62E.645 =644.62E.645 =644.645.62D =644.645.62D =645.62D.62C",
  "=645.62D.645 =645.62D.64A =645.62C.62D =645.62C.645 =645.62E.62C =645.62E.645 FD92=645.62C.62E",
  "=647.645.62C =647.645.645 =646.62D.645 =646.62D.649 =646.62C.645 =646.62C.645 =646.62C.649",
  "=646.645.64A =646.645.649 =64A.645.645 =64A.645.645 =628.62E.64A =62A.62C.64A =62A.62C.649",
  "=62A.62E.64A =62A.62E.649 =62A.645.64A =62A.645.649 =62C.645.64A =62C.62D.649 =62C.645.649",
  "=633.62E.649 =635.62D.64A =634.62D.64A =636.62D.64A =644.62C.64A =644.645.64A =64A.62D.64A",
  "=64A.62C.64A =64A.645.64A =645.645.64A =642.645.64A =646.62D.64A =642.645.62D =644.62D.645",
  "=639.645.64A =643.645.64A =646.62C.62D =645.62E.64A =644.62C.645 =643.645.645 =644.62C.645",
  "=646.62C.62D =62C.62D.64A =62D.62C.64A =645.62C.64A =641.645.64A =628.62D.64A =643.645.645",
  "=639.62C.645 =635.645.645 =633.62E.64A =646.62C.64A FDF0=635.644.6D2 =642.644.6D2",
  "=627.644.644.647 =627.643.628.631 =645.62D.645.62F =635.644.639.645 =631.633.648.644",
  "=639.644.64A.647 =648.633.644.645 =635.644.649",
  "=635.644.649.20.627.644.644.647.20.639.644.64A.647.20.648.633.644.645",
  "=62C.644.20.62C.644.627.644.647 =631.6CC.627.644 FE10=2C =3001 =3002 =3A =3B =21 =3F =3016",
  "=3017 =2E.2E.2E FE30=2E.2E =2014 =2013 =5F =5F =28 =29 =7B =7D =3014 =3015 =3010 =3011 =300A",
  "=300B =3008 =3009 FE41-FE44=300C FE47=5B =5D =20.305 =20.305 =20.305 =20.305 =5F =5F =5F =2C",
  "=3001 =2E FE54=3B =3A =3F =21 =2014 =28 =29 =7B =7D =3014 =3015 =23 =26 =2A =2B =2D =3C =3E",
  "=3D FE68=5C =24 =25 =40 FE70=20.64B =640.64B =20.64C FE74=20.64D FE76=20.64E =640.64E =20.64F",
  "=640.64F =20.650 =640.650 =20.651 =640.651 =20.652 =640.652 =621 =627.653 =627.653 =627.654",
  "=627.654 =648.654 =648.654 =627.655 =627.655 =64A.654 =64A.654 =64A.654 =64A.654 =627 =627",
  "=628 =628 =628 =628 =629 =629 =62A =62A =62A =62A =62B =62B =62B =62B =62C =62C =62C =62C =62D",
  "=62D =62D =62D =62E =62E =62E =62E =62F =62F =630 =630 =631 =631 =632 =632 =633 =633 =633 =633",
  "=634 =634 =634 =634 =635 =635 =635 =635 =636 =636 =636 =636 =637 =637 =637 =637 =638 =638 =638",
  "=638 =639 =639 =639 =639 =63A =63A =63A =63A =641 =641 =641 =641 =642 =642 =642 =642 =643 =643",
  "=643 =643 =644 =644 =644 =644 =645 =645 =645 =645 =646 =646 =646 =646 =647 =647 =647 =647 =648",
  "=648 =649 =649 =64A =64A =64A =64A =644.627.653 =644.627.653 =644.627.654 =644.627.654",
  "=644.627.655 =644.627.655 =644.627 =644.627 FF01-FF5E=21 =2985 =2986 =3002 =300C =300D =3001",
  "=30FB =30F2 =30A1 =30A3 =30A5 =30A7 =30A9 =30E3 =30E5 =30E7 =30C3 =30FC =30A2 =30A4 =30A6",
  "=30A8 =30AA =30AB =30AD =30AF =30B1 =30B3 =30B5 =30B7 =30B9 =30BB =30BD =30BF =30C1 =30C4",
  "=30C6 =30C8 FF85-FF8A=30CA =30D2 =30D5 =30D8 =30DB FF8F-FF93=30DE =30E4 =30E6 FF96-FF9B=30E8",
  "=30EF =30F3 =3099 =309A =1160 =1100 =1101 =11AA =1102 =11AC =11AD FFA7-FFA9=1103",
  "FFAA-FFAF=11B0 =111A FFB1-FFB3=1106 =1121 FFB5-FFBE=1109 FFC2-FFC7=1161 FFCA-FFCF=1167",
  "FFD2-FFD7=116D FFDA-FFDC=1173 FFE0=A2 =A3 =AC =20.304 =A6 =A5 =20A9 FFE8=2502 FFE9-FFEC=2190",
  "=25A0 =25CB 10781=2D0 =2D1 =E6 =299 =253 10787=2A3 =AB66 =2A5 =2A4 =256 =257 =1D91 =258 =25E",
  "=2A9 =264 =262 =260 =29B =127 =29C =267 =284 =2AA =2AB =26C =1DF04 =A78E =26E =1DF05 =28E",
  "=1DF06 =F8 =276 =277 =71 =27A =1DF08 =27D =27E =280 =2A8 =2A6 =AB67 =2A7 =288 =2C71 107B2=28F",
  "=2A1 =2A2 =298 107B6-107B8=1C0 =1DF0A =1DF1E 1CCD6-1CCEF=41 1CCF0-1CCF9=30 1D400-1D419=41",
  "1D41A-1D433=61 1D434-1D44D=41 1D44E-1D454=61 1D456-1D467=69 1D468-1D481=41 1D482-1D49B=61 =41",
  "1D49E=43 =44 1D4A2=47 1D4A5=4A =4B 1D4A9-1D4AC=4E 1D4AE-1D4B5=53 1D4B6-1D4B9=61 1D4BB=66",
  "1D4BD-1D4C3=68 1D4C5-1D4CF=70 1D4D0-1D4E9=41 1D4EA-1D503=61 =41 =42 1D507-1D50A=44",
  "1D50D-1D514=4A 1D516-1D51C=53 1D51E-1D537=61 =41 =42 1D53B-1D53E=44 1D540-1D544=49 1D546=4F",
  "1D54A-1D550=53 1D552-1D56B=61 1D56C-1D585=41 1D586-1D59F=61 1D5A0-1D5B9=41 1D5BA-1D5D3=61",
  "1D5D4-1D5ED=41 1D5EE-1D607=61 1D608-1D621=41 1D622-1D63B=61 1D63C-1D655=41 1D656-1D66F=61",
  "1D670-1D689=41 1D68A-1D6A3=61 =131 =237 1D6A8-1D6B8=391 =398 1D6BA-1D6C0=3A3 =2207",
  "1D6C2-1D6DA=3B1 =2202 =3B5 =3B8 =3BA =3C6 =3C1 =3C0 1D6E2-1D6F2=391 =398 1D6F4-1D6FA=3A3 =2207",
  "1D6FC-1D714=3B1 =2202 =3B5 =3B8 =3BA =3C6 =3C1 =3C0 1D71C-1D72C=391 =398 1D72E-1D734=3A3 =2207",
  "1D736-1D74E=3B1 =2202 =3B5 =3B8 =3BA =3C6 =3C1 =3C0 1D756-1D766=391 =398 1D768-1D76E=3A3 =2207",
  "1D770-1D788=3B1 =2202 =3B5 =3B8 =3BA =3C6 =3C1 =3C0 1D790-1D7A0=391 =398 1D7A2-1D7A8=3A3 =2207",
  "1D7AA-1D7C2=3B1 =2202 =3B5 =3B8 =3BA =3C6 =3C1 =3C0 =3DC =3DD 1D7CE-1D7D7=30 1D7D8-1D7E1=30",
  "1D7E2-1D7EB=30 1D7EC-1D7F5=30 1D7F6-1D7FF=30 1E030-1E038=430 1E039-1E03B=43A 1E03C-1E046=43E",
  "=44B =44D =44E =A689 =4D9 =456 =458 =4E9 =4AF =4CF 1E051-1E059=430 =43A =43B =43E =43F =441",
  "1E05F-1E064=443 =44A =44B =491 =456 =455 =45F =4AB =A651 =4B1 1EE00=627 =628 =62C =62F",
  "1EE05=648 =632 =62D =637 =64A 1EE0A-1EE0D=643 =633 =639 =641 =635 =642 =631 =634 =62A =62B",
  "=62E =630 =636 =638 =63A =66E =6BA =6A1 =66F 1EE21=628 =62C 1EE24=647 1EE27=62D 1EE29=64A",
  "1EE2A-1EE2D=643 =633 =639 =641 =635 =642 1EE34=634 =62A =62B =62E 1EE39=636 1EE3B=63A",
  "1EE42=62C 1EE47=62D 1EE49=64A 1EE4B=644 1EE4D=646 =633 =639 1EE51=635 =642 1EE54=634 1EE57=62E",
  "1EE59=636 1EE5B=63A 1EE5D=6BA 1EE5F=66F 1EE61=628 =62C 1EE64=647 1EE67=62D =637 =64A =643",
  "1EE6C=645 =646 =633 =639 =641 =635 =642 1EE74=634 =62A =62B =62E 1EE79=636 =638 =63A =66E",
  "1EE7E=6A1 1EE80=627 =628 =62C =62F =647 =648 =632 =62D =637 =64A 1EE8B-1EE8D=644 =633 =639",
  "=641 =635 =642 =631 =634 =62A =62B =62E =630 =636 =638 =63A 1EEA1=628 =62C =62F 1EEA5=648 =632",
  "=62D =637 =64A 1EEAB-1EEAD=644 =633 =639 =641 =635 =642 =631 =634 =62A =62B =62E =630 =636",
  "=638 =63A 1F100=30.2E =30.2C =31.2C =32.2C =33.2C =34.2C =35.2C =36.2C =37.2C =38.2C =39.2C",
  "1F110=28.41.29 =28.42.29 =28.43.29 =28.44.29 =28.45.29 =28.46.29 =28.47.29 =28.48.29 =28.49.29",
  "=28.4A.29 =28.4B.29 =28.4C.29 =28.4D.29 =28.4E.29 =28.4F.29 =28.50.29 =28.51.29 =28.52.29",
  "=28.53.29 =28.54.29 =28.55.29 =28.56.29 =28.57.29 =28.58.29 =28.59.29 =28.5A.29 =3014.53.3015",
  "=43 =52 =43.44 =57.5A 1F130-1F149=41 =48.56 =4D.56 =53.44 =53.53 =50.50.56 =57.43 1F16A=4D.43",
  "=4D.44 =4D.52 1F190=44.4A 1F200=307B.304B =30B3.30B3 =30B5 1F210=624B =5B57 =53CC =30C6.3099",
  "=4E8C =591A =89E3 =5929 =4EA4 =6620 =7121 =6599 =524D =5F8C =518D =65B0 =521D =7D42 =751F",
  "=8CA9 =58F0 =5439 =6F14 =6295 =6355 =4E00 =4E09 =904A =5DE6 =4E2D =53F3 =6307 =8D70 =6253",
  "=7981 =7A7A =5408 =6E80 =6709 =6708 =7533 =5272 =55B6 =914D 1F240=3014.672C.3015",
  "=3014.4E09.3015 =3014.4E8C.3015 =3014.5B89.3015 =3014.70B9.3015 =3014.6253.3015",
  "=3014.76D7.3015 =3014.52DD.3015 =3014.6557.3015 1F250=5F97 =53EF 1FBF0-1FBF9=30"]

private def sameTable : Std.HashMap Nat (List Nat) :=
  .ofList (pairEntries ++ sameEntries)

private def formTable : Std.HashMap Nat (List Nat) :=
  .ofList formEntries

def pairTable : Std.HashMap (List Nat) Nat :=
  .ofList (pairEntries.map fun (n, pair) => (pair, n))

/-- The parts of a syllable of Hangul: a consonant, a vowel, and perhaps another consonant. -/
private def syllableParts? (n : Nat) : Option (List Nat) :=
  if 0xAC00 ≤ n ∧ n < 0xAC00 + 11172 then
    let i := n - 0xAC00
    let parts := [0x1100 + i / 588, 0x1161 + i % 588 / 28]
    some (if i % 28 = 0 then parts else parts ++ [0x11A7 + i % 28])
  else none

def syllable? (m n : Nat) : Option Nat :=
  if 0x1100 ≤ m ∧ m < 0x1113 ∧ 0x1161 ≤ n ∧ n < 0x1176 then
    some (0xAC00 + 588 * (m - 0x1100) + 28 * (n - 0x1161))
  else if 0xAC00 ≤ m ∧ m < 0xAC00 + 11172 ∧ (m - 0xAC00) % 28 = 0 ∧ 0x11A7 < n ∧ n < 0x11C3 then
    some (m + (n - 0x11A7))
  else none

private def expand : Nat → Nat → List Nat
  | 0, n => [n]
  | depth + 1, n =>
    match (syllableParts? n).or ((sameTable[n]?).or formTable[n]?) with
    | some parts => parts.flatMap (expand depth)
    | none => [n]

/-- The characters that a character stands for, all forms of others among them replaced; there are
less than eight steps to them. -/
def compatibleParts (c : Char) : List Char :=
  (expand 8 c.toNat).map Char.ofNat

def composed? (c d : Char) : Option Char :=
  ((syllable? c.toNat d.toNat).or pairTable[[c.toNat, d.toNat]]?).map Char.ofNat

end RestRecords.Text
