/-!
# Properties in the later edition

The tables of properties that patterns use are those of one edition of the standard, while names are
read and texts are cased by the next edition. Here is what has a property in that one only, as
ranges of code points in hexadecimal.
-/

namespace SparqlScalar.Property.Later

def alphabetic : List String :=
  ["88f c5c cdc a7ce-a7cf a7d2 a7d4 a7f1 10940-10959 10ec5-10ec7 10efa-10efb 11b60-11b67",
    "11db0-11ddb 16ea0-16eb8 16ebb-16ed3 16ff2-16ff6 187f8-187ff 18d09-18d1e 18d80-18df2",
    "1e6c0-1e6de 1e6e0-1e6f5 1e6fe-1e6ff 2b73a-2b73f 2cea2-2cead 323b0-33479"]

def numeric : List String :=
  ["11de0-11de9 16ff4-16ff6"]

def cased : List String :=
  ["a7ce-a7cf a7d2 a7d4 a7f1 16ea0-16eb8 16ebb-16ed3"]

def caseIgnorable : List String :=
  ["1acf-1add 1ae0-1aeb a7f1 10ec5 10efa-10efb 11b60 11b62-11b64 11b66 11dd9 16ff2-16ff3 1e6e3",
    "1e6e6 1e6ee-1e6ef 1e6f5 1e6ff"]

end SparqlScalar.Property.Later
