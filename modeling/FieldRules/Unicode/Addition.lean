import FieldRules.Text.CharRanges

/-!
# Later additions (for `crates/validator/src/error.rs:31-118`, `crates/log/src/builder.rs:61`)

The tables of properties describe version 16 of the standard, which patterns go by. Texts and names go by
version 17; the tables here hold what it added to the letters, the numbers, the characters that leave ink, and
those that extend the character before them.
-/

namespace FieldRules.Unicode

def addedAlphabetic : Text.CharRanges :=
  Text.CharRanges.decode
    "88f c5c cdc a7ce-a7cf a7d2 a7d4 a7f1 10940-10959 10ec5-10ec7 10efa-10efb 11b60-11b67 11db0-11ddb
     16ea0-16eb8 16ebb-16ed3 16ff2-16ff6 187f8-187ff 18d09-18d1e 18d80-18df2 1e6c0-1e6de 1e6e0-1e6f5
     1e6fe-1e6ff 2b73a-2b73f 2cea2-2cead 323b0-33479"

def addedNumeric : Text.CharRanges :=
  Text.CharRanges.decode "11de0-11de9 16ff4-16ff6"

def addedInk : Text.CharRanges :=
  Text.CharRanges.decode
    "88f c5c cdc 1acf-1add 1ae0-1aeb 20c1 2b96 a7ce-a7cf a7d2 a7d4 a7f1 fbc3-fbd2 fd90-fd91 fdc8-fdce
     10940-10959 10ec5-10ec7 10ed0-10ed8 10efa-10efb 11b60-11b67 11db0-11ddb 11de0-11de9 16ea0-16eb8
     16ebb-16ed3 16ff2-16ff6 187f8-187ff 18d09-18d1e 18d80-18df2 1ccfa-1ccfc 1ceba-1ced0 1cee0-1cef0
     1e6c0-1e6de 1e6e0-1e6f5 1e6fe-1e6ff 1f6d8 1f777-1f77a 1f8d0-1f8d8 1fa54-1fa57 1fa8a 1fa8e 1fac8
     1facd 1faea 1faef 1fbfa 2b73a-2b73f 2cea2-2cead 323b0-33479"

def addedExtending : Text.CharRanges :=
  Text.CharRanges.decode
    "1acf-1add 1ae0-1aeb 10efa-10efb 11b60 11b62-11b64 11b66 1e6e3 1e6e6 1e6ee-1e6ef 1e6f5"

end FieldRules.Unicode
