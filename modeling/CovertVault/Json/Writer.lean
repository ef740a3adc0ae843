import CovertVault.Json.Basic
import CovertVault.Json.Quoted

namespace CovertVault.Json
open Number

mutual

def write : Json → List Char
  | .null => ['n', 'u', 'l', 'l']
  | .bool true => ['t', 'r', 'u', 'e']
  | .bool false => ['f', 'a', 'l', 's', 'e']
  | .int n => intText n
  | .decimal d => signText d.negative ++ natText d.digits ++ 'e' :: intText d.exponent
  | .infinity negative => signText negative ++ "Infinity".toList
  | .nan => ['N', 'a', 'N']
  | .str s => writeString s.toList
  | .broken s => '"' :: s.flatMap writePoint ++ ['"']
  | .arr items => '[' :: writeItems items ++ [']']
  | .obj members => '\x7b' :: writeMembers members ++ ['\x7d']

def writeItems : List Json → List Char
  | [] => []
  | [v] => v.write
  | v :: w :: r => v.write ++ ',' :: writeItems (w :: r)

def writeMembers : List (String × Json) → List Char
  | [] => []
  | [(k, v)] => writeString k.toList ++ ':' :: v.write
  | (k, v) :: m :: r => writeString k.toList ++ ':' :: v.write ++ ',' :: writeMembers (m :: r)

end

end CovertVault.Json
