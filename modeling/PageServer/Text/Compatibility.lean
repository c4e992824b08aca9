import PageServer.Text.CharTable
/-! Compatibility of names, from version 14 of the character database. Characters that may stand in
names, and that differ only in how they are composed or shown, come apart into the same plain ones:
ligatures into their letters, letters with accents into letters and accents, wide and ornate letters
into plain letters. -/
namespace PageServer.Text

/-- What characters come apart into, from a first one on, with bars between them. Syllables of the
Korean script are left out, which come apart by a rule. -/
def decompositions : List (Nat × List String) :=
  [(0xAA, ["a"]), (0xB5, ["μ"]), (0xBA, ["o"]),
   (0xC0, ["A\u0300|A\u0301|A\u0302|A\u0303|A\u0308|A\u030A"]),
   (0xC7, ["C\u0327|E\u0300|E\u0301|E\u0302|E\u0308|I\u0300|I\u0301|I\u0302|I\u0308"]),
   (0xD1, ["N\u0303|O\u0300|O\u0301|O\u0302|O\u0303|O\u0308"]),
   (0xD9, ["U\u0300|U\u0301|U\u0302|U\u0308|Y\u0301"]),
   (0xE0, ["a\u0300|a\u0301|a\u0302|a\u0303|a\u0308|a\u030A"]),
   (0xE7, ["c\u0327|e\u0300|e\u0301|e\u0302|e\u0308|i\u0300|i\u0301|i\u0302|i\u0308"]),
   (0xF1, ["n\u0303|o\u0300|o\u0301|o\u0302|o\u0303|o\u0308"]),
   (0xF9, ["u\u0300|u\u0301|u\u0302|u\u0308|y\u0301"]),
   (0xFF, ["y\u0308|A\u0304|a\u0304|A\u0306|a\u0306|A\u0328|a\u0328|C\u0301|c\u0301|C\u0302",
     "c\u0302|C\u0307|c\u0307|C\u030C|c\u030C|D\u030C|d\u030C"]),
   (0x112, ["E\u0304|e\u0304|E\u0306|e\u0306|E\u0307|e\u0307|E\u0328|e\u0328|E\u030C|e\u030C",
     "G\u0302|g\u0302|G\u0306|g\u0306|G\u0307|g\u0307|G\u0327|g\u0327|H\u0302|h\u0302"]),
   (0x128, ["I\u0303|i\u0303|I\u0304|i\u0304|I\u0306|i\u0306|I\u0328|i\u0328|I\u0307"]),
   (0x132, ["IJ|ij|J\u0302|j\u0302|K\u0327|k\u0327"]),
   (0x139, ["L\u0301|l\u0301|L\u0327|l\u0327|L\u030C|l\u030C|L·|l·"]),
   (0x143, ["N\u0301|n\u0301|N\u0327|n\u0327|N\u030C|n\u030C|ʼn"]),
   (0x14C, ["O\u0304|o\u0304|O\u0306|o\u0306|O\u030B|o\u030B"]),
   (0x154, ["R\u0301|r\u0301|R\u0327|r\u0327|R\u030C|r\u030C|S\u0301|s\u0301|S\u0302|s\u0302",
     "S\u0327|s\u0327|S\u030C|s\u030C|T\u0327|t\u0327|T\u030C|t\u030C"]),
   (0x168, ["U\u0303|u\u0303|U\u0304|u\u0304|U\u0306|u\u0306|U\u030A|u\u030A|U\u030B|u\u030B",
     "U\u0328|u\u0328|W\u0302|w\u0302|Y\u0302|y\u0302|Y\u0308|Z\u0301|z\u0301|Z\u0307|z\u0307",
     "Z\u030C|z\u030C|s"]),
   (0x1A0, ["O\u031B|o\u031B"]), (0x1AF, ["U\u031B|u\u031B"]),
   (0x1C4, ["DZ\u030C|Dz\u030C|dz\u030C|LJ|Lj|lj|NJ|Nj|nj|A\u030C|a\u030C|I\u030C|i\u030C",
     "O\u030C|o\u030C|U\u030C|u\u030C|U\u0308\u0304|u\u0308\u0304|U\u0308\u0301|u\u0308\u0301",
     "U\u0308\u030C|u\u0308\u030C|U\u0308\u0300|u\u0308\u0300"]),
   (0x1DE, ["A\u0308\u0304|a\u0308\u0304|A\u0307\u0304|a\u0307\u0304|Æ\u0304|æ\u0304"]),
   (0x1E6, ["G\u030C|g\u030C|K\u030C|k\u030C|O\u0328|o\u0328|O\u0328\u0304|o\u0328\u0304|Ʒ\u030C",
     "ʒ\u030C|j\u030C|DZ|Dz|dz|G\u0301|g\u0301"]),
   (0x1F8, ["N\u0300|n\u0300|A\u030A\u0301|a\u030A\u0301|Æ\u0301|æ\u0301|Ø\u0301|ø\u0301|A\u030F",
     "a\u030F|A\u0311|a\u0311|E\u030F|e\u030F|E\u0311|e\u0311|I\u030F|i\u030F|I\u0311|i\u0311",
     "O\u030F|o\u030F|O\u0311|o\u0311|R\u030F|r\u030F|R\u0311|r\u0311|U\u030F|u\u030F|U\u0311",
     "u\u0311|S\u0326|s\u0326|T\u0326|t\u0326"]),
   (0x21E, ["H\u030C|h\u030C"]),
   (0x226, ["A\u0307|a\u0307|E\u0327|e\u0327|O\u0308\u0304|o\u0308\u0304|O\u0303\u0304",
     "o\u0303\u0304|O\u0307|o\u0307|O\u0307\u0304|o\u0307\u0304|Y\u0304|y\u0304"]),
   (0x2B0, ["h|ɦ|j|r|ɹ|ɻ|ʁ|w|y"]), (0x2E0, ["ɣ|l|s|x|ʕ"]), (0x340, ["\u0300|\u0301"]),
   (0x343, ["\u0313|\u0308\u0301"]), (0x374, ["ʹ"]), (0x386, ["Α\u0301|·|Ε\u0301|Η\u0301|Ι\u0301"]),
   (0x38C, ["Ο\u0301"]), (0x38E, ["Υ\u0301|Ω\u0301|ι\u0308\u0301"]),
   (0x3AA, ["Ι\u0308|Υ\u0308|α\u0301|ε\u0301|η\u0301|ι\u0301|υ\u0308\u0301"]),
   (0x3CA, ["ι\u0308|υ\u0308|ο\u0301|υ\u0301|ω\u0301"]), (0x3D0, ["β|θ|Υ|Υ\u0301|Υ\u0308|φ|π"]),
   (0x3F0, ["κ|ρ|ς"]), (0x3F4, ["Θ|ε"]), (0x3F9, ["Σ"]), (0x400, ["Е\u0300|Е\u0308"]),
   (0x403, ["Г\u0301"]), (0x407, ["І\u0308"]), (0x40C, ["К\u0301|И\u0300|У\u0306"]),
   (0x419, ["И\u0306"]), (0x439, ["и\u0306"]), (0x450, ["е\u0300|е\u0308"]), (0x453, ["г\u0301"]),
   (0x457, ["і\u0308"]), (0x45C, ["к\u0301|и\u0300|у\u0306"]), (0x476, ["Ѵ\u030F|ѵ\u030F"]),
   (0x4C1, ["Ж\u0306|ж\u0306"]), (0x4D0, ["А\u0306|а\u0306|А\u0308|а\u0308"]),
   (0x4D6, ["Е\u0306|е\u0306"]), (0x4DA, ["Ә\u0308|ә\u0308|Ж\u0308|ж\u0308|З\u0308|з\u0308"]),
   (0x4E2, ["И\u0304|и\u0304|И\u0308|и\u0308|О\u0308|о\u0308"]),
   (0x4EA, ["Ө\u0308|ө\u0308|Э\u0308|э\u0308|У\u0304|у\u0304|У\u0308|у\u0308|У\u030B|у\u030B",
     "Ч\u0308|ч\u0308"]),
   (0x4F8, ["Ы\u0308|ы\u0308"]), (0x587, ["եւ"]),
   (0x622, ["ا\u0653|ا\u0654|و\u0654|ا\u0655|ي\u0654"]), (0x675, ["اٴ|وٴ|ۇٴ|يٴ"]),
   (0x6C0, ["ە\u0654"]), (0x6C2, ["ہ\u0654"]), (0x6D3, ["ے\u0654"]), (0x929, ["न\u093C"]),
   (0x931, ["र\u093C"]), (0x934, ["ळ\u093C"]),
   (0x958, ["क\u093C|ख\u093C|ग\u093C|ज\u093C|ड\u093C|ढ\u093C|फ\u093C|य\u093C"]),
   (0x9CB, ["\u09C7\u09BE|\u09C7\u09D7"]), (0x9DC, ["ড\u09BC|ঢ\u09BC"]), (0x9DF, ["য\u09BC"]),
   (0xA33, ["ਲ\u0A3C"]), (0xA36, ["ਸ\u0A3C"]), (0xA59, ["ਖ\u0A3C|ਗ\u0A3C|ਜ\u0A3C"]),
   (0xA5E, ["ਫ\u0A3C"]), (0xB48, ["\u0B47\u0B56"]), (0xB4B, ["\u0B47\u0B3E|\u0B47\u0B57"]),
   (0xB5C, ["ଡ\u0B3C|ଢ\u0B3C"]), (0xB94, ["ஒ\u0BD7"]),
   (0xBCA, ["\u0BC6\u0BBE|\u0BC7\u0BBE|\u0BC6\u0BD7"]), (0xC48, ["\u0C46\u0C56"]),
   (0xCC0, ["\u0CBF\u0CD5"]), (0xCC7, ["\u0CC6\u0CD5|\u0CC6\u0CD6"]),
   (0xCCA, ["\u0CC6\u0CC2|\u0CC6\u0CC2\u0CD5"]),
   (0xD4A, ["\u0D46\u0D3E|\u0D47\u0D3E|\u0D46\u0D57"]), (0xDDA, ["\u0DD9\u0DCA"]),
   (0xDDC, ["\u0DD9\u0DCF|\u0DD9\u0DCF\u0DCA|\u0DD9\u0DDF"]), (0xE33, ["\u0E4Dา"]),
   (0xEB3, ["\u0ECDາ"]), (0xEDC, ["ຫນ|ຫມ"]), (0xF43, ["ག\u0FB7"]), (0xF4D, ["ཌ\u0FB7"]),
   (0xF52, ["ད\u0FB7"]), (0xF57, ["བ\u0FB7"]), (0xF5C, ["ཛ\u0FB7"]), (0xF69, ["ཀ\u0FB5"]),
   (0xF73, ["\u0F71\u0F72"]),
   (0xF75, ["\u0F71\u0F74|\u0FB2\u0F80|\u0FB2\u0F71\u0F80|\u0FB3\u0F80|\u0FB3\u0F71\u0F80"]),
   (0xF81, ["\u0F71\u0F80"]), (0xF93, ["\u0F92\u0FB7"]), (0xF9D, ["\u0F9C\u0FB7"]),
   (0xFA2, ["\u0FA1\u0FB7"]), (0xFA7, ["\u0FA6\u0FB7"]), (0xFAC, ["\u0FAB\u0FB7"]),
   (0xFB9, ["\u0F90\u0FB5"]), (0x1026, ["ဥ\u102E"]), (0x10FC, ["ნ"]), (0x1B06, ["ᬅ\u1B35"]),
   (0x1B08, ["ᬇ\u1B35"]), (0x1B0A, ["ᬉ\u1B35"]), (0x1B0C, ["ᬋ\u1B35"]), (0x1B0E, ["ᬍ\u1B35"]),
   (0x1B12, ["ᬑ\u1B35"]), (0x1B3B, ["\u1B3A\u1B35"]), (0x1B3D, ["\u1B3C\u1B35"]),
   (0x1B40, ["\u1B3E\u1B35|\u1B3F\u1B35"]), (0x1B43, ["\u1B42\u1B35"]), (0x1D2C, ["A|Æ|B"]),
   (0x1D30, ["D|E|Ǝ|G|H|I|J|K|L|M|N"]), (0x1D3C, ["O|Ȣ|P|R|T|U|W|a|ɐ|ɑ|ᴂ|b|d|e|ə|ɛ|ɜ|g"]),
   (0x1D4F, ["k|m|ŋ|o|ɔ|ᴖ|ᴗ|p|t|u|ᴝ|ɯ|v|ᴥ|β|γ|δ|φ|χ|i|r|u|v|β|γ|ρ|φ|χ"]), (0x1D78, ["н"]),
   (0x1D9B, ["ɒ|c|ɕ|ð|ɜ|f|ɟ|ɡ|ɥ|ɨ|ɩ|ɪ|ᵻ|ʝ|ɭ|ᶅ|ʟ|ɱ|ɰ|ɲ|ɳ|ɴ|ɵ|ɸ|ʂ|ʃ|ƫ|ʉ|ʊ|ᴜ|ʋ|ʌ|z|ʐ|ʑ|ʒ|θ"]),
   (0x1E00, ["A\u0325|a\u0325|B\u0307|b\u0307|B\u0323|b\u0323|B\u0331|b\u0331|C\u0327\u0301",
     "c\u0327\u0301|D\u0307|d\u0307|D\u0323|d\u0323|D\u0331|d\u0331|D\u0327|d\u0327|D\u032D",
     "d\u032D|E\u0304\u0300|e\u0304\u0300|E\u0304\u0301|e\u0304\u0301|E\u032D|e\u032D|E\u0330",
     "e\u0330|E\u0327\u0306|e\u0327\u0306|F\u0307|f\u0307|G\u0304|g\u0304|H\u0307|h\u0307",
     "H\u0323|h\u0323|H\u0308|h\u0308|H\u0327|h\u0327|H\u032E|h\u032E|I\u0330|i\u0330",
     "I\u0308\u0301|i\u0308\u0301|K\u0301|k\u0301|K\u0323|k\u0323|K\u0331|k\u0331|L\u0323",
     "l\u0323|L\u0323\u0304|l\u0323\u0304|L\u0331|l\u0331|L\u032D|l\u032D|M\u0301|m\u0301",
     "M\u0307|m\u0307|M\u0323|m\u0323|N\u0307|n\u0307|N\u0323|n\u0323|N\u0331|n\u0331|N\u032D",
     "n\u032D|O\u0303\u0301|o\u0303\u0301|O\u0303\u0308|o\u0303\u0308|O\u0304\u0300",
     "o\u0304\u0300|O\u0304\u0301|o\u0304\u0301|P\u0301|p\u0301|P\u0307|p\u0307|R\u0307|r\u0307",
     "R\u0323|r\u0323|R\u0323\u0304|r\u0323\u0304|R\u0331|r\u0331|S\u0307|s\u0307|S\u0323",
     "s\u0323|S\u0301\u0307|s\u0301\u0307|S\u030C\u0307|s\u030C\u0307|S\u0323\u0307",
     "s\u0323\u0307|T\u0307|t\u0307|T\u0323|t\u0323|T\u0331|t\u0331|T\u032D|t\u032D|U\u0324",
     "u\u0324|U\u0330|u\u0330|U\u032D|u\u032D|U\u0303\u0301|u\u0303\u0301|U\u0304\u0308",
     "u\u0304\u0308|V\u0303|v\u0303|V\u0323|v\u0323|W\u0300|w\u0300|W\u0301|w\u0301|W\u0308",
     "w\u0308|W\u0307|w\u0307|W\u0323|w\u0323|X\u0307|x\u0307|X\u0308|x\u0308|Y\u0307|y\u0307",
     "Z\u0302|z\u0302|Z\u0323|z\u0323|Z\u0331|z\u0331|h\u0331|t\u0308|w\u030A|y\u030A|aʾ|s\u0307"]),
   (0x1EA0, ["A\u0323|a\u0323|A\u0309|a\u0309|A\u0302\u0301|a\u0302\u0301|A\u0302\u0300",
     "a\u0302\u0300|A\u0302\u0309|a\u0302\u0309|A\u0302\u0303|a\u0302\u0303|A\u0323\u0302",
     "a\u0323\u0302|A\u0306\u0301|a\u0306\u0301|A\u0306\u0300|a\u0306\u0300|A\u0306\u0309",
     "a\u0306\u0309|A\u0306\u0303|a\u0306\u0303|A\u0323\u0306|a\u0323\u0306|E\u0323|e\u0323",
     "E\u0309|e\u0309|E\u0303|e\u0303|E\u0302\u0301|e\u0302\u0301|E\u0302\u0300|e\u0302\u0300",
     "E\u0302\u0309|e\u0302\u0309|E\u0302\u0303|e\u0302\u0303|E\u0323\u0302|e\u0323\u0302",
     "I\u0309|i\u0309|I\u0323|i\u0323|O\u0323|o\u0323|O\u0309|o\u0309|O\u0302\u0301",
     "o\u0302\u0301|O\u0302\u0300|o\u0302\u0300|O\u0302\u0309|o\u0302\u0309|O\u0302\u0303",
     "o\u0302\u0303|O\u0323\u0302|o\u0323\u0302|O\u031B\u0301|o\u031B\u0301|O\u031B\u0300",
     "o\u031B\u0300|O\u031B\u0309|o\u031B\u0309|O\u031B\u0303|o\u031B\u0303|O\u031B\u0323",
     "o\u031B\u0323|U\u0323|u\u0323|U\u0309|u\u0309|U\u031B\u0301|u\u031B\u0301|U\u031B\u0300",
     "u\u031B\u0300|U\u031B\u0309|u\u031B\u0309|U\u031B\u0303|u\u031B\u0303|U\u031B\u0323",
     "u\u031B\u0323|Y\u0300|y\u0300|Y\u0323|y\u0323|Y\u0309|y\u0309|Y\u0303|y\u0303"]),
   (0x1F00, ["α\u0313|α\u0314|α\u0313\u0300|α\u0314\u0300|α\u0313\u0301|α\u0314\u0301",
     "α\u0313\u0342|α\u0314\u0342|Α\u0313|Α\u0314|Α\u0313\u0300|Α\u0314\u0300|Α\u0313\u0301",
     "Α\u0314\u0301|Α\u0313\u0342|Α\u0314\u0342|ε\u0313|ε\u0314|ε\u0313\u0300|ε\u0314\u0300",
     "ε\u0313\u0301|ε\u0314\u0301"]),
   (0x1F18, ["Ε\u0313|Ε\u0314|Ε\u0313\u0300|Ε\u0314\u0300|Ε\u0313\u0301|Ε\u0314\u0301"]),
   (0x1F20, ["η\u0313|η\u0314|η\u0313\u0300|η\u0314\u0300|η\u0313\u0301|η\u0314\u0301",
     "η\u0313\u0342|η\u0314\u0342|Η\u0313|Η\u0314|Η\u0313\u0300|Η\u0314\u0300|Η\u0313\u0301",
     "Η\u0314\u0301|Η\u0313\u0342|Η\u0314\u0342|ι\u0313|ι\u0314|ι\u0313\u0300|ι\u0314\u0300",
     "ι\u0313\u0301|ι\u0314\u0301|ι\u0313\u0342|ι\u0314\u0342|Ι\u0313|Ι\u0314|Ι\u0313\u0300",
     "Ι\u0314\u0300|Ι\u0313\u0301|Ι\u0314\u0301|Ι\u0313\u0342|Ι\u0314\u0342|ο\u0313|ο\u0314",
     "ο\u0313\u0300|ο\u0314\u0300|ο\u0313\u0301|ο\u0314\u0301"]),
   (0x1F48, ["Ο\u0313|Ο\u0314|Ο\u0313\u0300|Ο\u0314\u0300|Ο\u0313\u0301|Ο\u0314\u0301"]),
   (0x1F50, ["υ\u0313|υ\u0314|υ\u0313\u0300|υ\u0314\u0300|υ\u0313\u0301|υ\u0314\u0301",
     "υ\u0313\u0342|υ\u0314\u0342"]),
   (0x1F59, ["Υ\u0314"]), (0x1F5B, ["Υ\u0314\u0300"]), (0x1F5D, ["Υ\u0314\u0301"]),
   (0x1F5F, ["Υ\u0314\u0342|ω\u0313|ω\u0314|ω\u0313\u0300|ω\u0314\u0300|ω\u0313\u0301",
     "ω\u0314\u0301|ω\u0313\u0342|ω\u0314\u0342|Ω\u0313|Ω\u0314|Ω\u0313\u0300|Ω\u0314\u0300",
     "Ω\u0313\u0301|Ω\u0314\u0301|Ω\u0313\u0342|Ω\u0314\u0342|α\u0300|α\u0301|ε\u0300|ε\u0301",
     "η\u0300|η\u0301|ι\u0300|ι\u0301|ο\u0300|ο\u0301|υ\u0300|υ\u0301|ω\u0300|ω\u0301"]),
   (0x1F80, ["α\u0313\u0345|α\u0314\u0345|α\u0313\u0300\u0345|α\u0314\u0300\u0345",
     "α\u0313\u0301\u0345|α\u0314\u0301\u0345|α\u0313\u0342\u0345|α\u0314\u0342\u0345",
     "Α\u0313\u0345|Α\u0314\u0345|Α\u0313\u0300\u0345|Α\u0314\u0300\u0345|Α\u0313\u0301\u0345",
     "Α\u0314\u0301\u0345|Α\u0313\u0342\u0345|Α\u0314\u0342\u0345|η\u0313\u0345|η\u0314\u0345",
     "η\u0313\u0300\u0345|η\u0314\u0300\u0345|η\u0313\u0301\u0345|η\u0314\u0301\u0345",
     "η\u0313\u0342\u0345|η\u0314\u0342\u0345|Η\u0313\u0345|Η\u0314\u0345|Η\u0313\u0300\u0345",
     "Η\u0314\u0300\u0345|Η\u0313\u0301\u0345|Η\u0314\u0301\u0345|Η\u0313\u0342\u0345",
     "Η\u0314\u0342\u0345|ω\u0313\u0345|ω\u0314\u0345|ω\u0313\u0300\u0345|ω\u0314\u0300\u0345",
     "ω\u0313\u0301\u0345|ω\u0314\u0301\u0345|ω\u0313\u0342\u0345|ω\u0314\u0342\u0345",
     "Ω\u0313\u0345|Ω\u0314\u0345|Ω\u0313\u0300\u0345|Ω\u0314\u0300\u0345|Ω\u0313\u0301\u0345",
     "Ω\u0314\u0301\u0345|Ω\u0313\u0342\u0345|Ω\u0314\u0342\u0345|α\u0306|α\u0304|α\u0300\u0345",
     "α\u0345|α\u0301\u0345"]),
   (0x1FB6, ["α\u0342|α\u0342\u0345|Α\u0306|Α\u0304|Α\u0300|Α\u0301|Α\u0345"]), (0x1FBE, ["ι"]),
   (0x1FC2, ["η\u0300\u0345|η\u0345|η\u0301\u0345"]),
   (0x1FC6, ["η\u0342|η\u0342\u0345|Ε\u0300|Ε\u0301|Η\u0300|Η\u0301|Η\u0345"]),
   (0x1FD0, ["ι\u0306|ι\u0304|ι\u0308\u0300|ι\u0308\u0301"]),
   (0x1FD6, ["ι\u0342|ι\u0308\u0342|Ι\u0306|Ι\u0304|Ι\u0300|Ι\u0301"]),
   (0x1FE0, ["υ\u0306|υ\u0304|υ\u0308\u0300|υ\u0308\u0301|ρ\u0313|ρ\u0314|υ\u0342|υ\u0308\u0342",
     "Υ\u0306|Υ\u0304|Υ\u0300|Υ\u0301|Ρ\u0314"]),
   (0x1FF2, ["ω\u0300\u0345|ω\u0345|ω\u0301\u0345"]),
   (0x1FF6, ["ω\u0342|ω\u0342\u0345|Ο\u0300|Ο\u0301|Ω\u0300|Ω\u0301|Ω\u0345"]), (0x2071, ["i"]),
   (0x207F, ["n"]), (0x2090, ["a|e|o|x|ə|h|k|l|m|n|p|s|t"]), (0x2102, ["C"]), (0x2107, ["Ɛ"]),
   (0x210A, ["g|H|H|H|h|ħ|I|I|L|l"]), (0x2115, ["N"]), (0x2119, ["P|Q|R|R|R"]), (0x2124, ["Z"]),
   (0x2126, ["Ω"]), (0x2128, ["Z"]), (0x212A, ["K|A\u030A|B|C"]), (0x212F, ["e|E|F"]),
   (0x2133, ["M|o|א|ב|ג|ד|i"]), (0x213C, ["π|γ|Γ|Π"]), (0x2145, ["D|d|e|i|j"]),
   (0x2160, ["I|II|III|IV|V|VI|VII|VIII|IX|X|XI|XII|L|C|D|M|i|ii|iii|iv|v|vi|vii|viii|ix|x|xi",
     "xii|l|c|d|m"]),
   (0x2C7C, ["j|V"]), (0x2D6F, ["ⵡ"]), (0x3038, ["十|卄|卅"]), (0x304C, ["か\u3099"]),
   (0x304E, ["き\u3099"]), (0x3050, ["く\u3099"]), (0x3052, ["け\u3099"]), (0x3054, ["こ\u3099"]),
   (0x3056, ["さ\u3099"]), (0x3058, ["し\u3099"]), (0x305A, ["す\u3099"]), (0x305C, ["せ\u3099"]),
   (0x305E, ["そ\u3099"]), (0x3060, ["た\u3099"]), (0x3062, ["ち\u3099"]), (0x3065, ["つ\u3099"]),
   (0x3067, ["て\u3099"]), (0x3069, ["と\u3099"]), (0x3070, ["は\u3099|は\u309A"]),
   (0x3073, ["ひ\u3099|ひ\u309A"]), (0x3076, ["ふ\u3099|ふ\u309A"]), (0x3079, ["へ\u3099|へ\u309A"]),
   (0x307C, ["ほ\u3099|ほ\u309A"]), (0x3094, ["う\u3099"]), (0x309E, ["ゝ\u3099|より"]),
   (0x30AC, ["カ\u3099"]), (0x30AE, ["キ\u3099"]), (0x30B0, ["ク\u3099"]), (0x30B2, ["ケ\u3099"]),
   (0x30B4, ["コ\u3099"]), (0x30B6, ["サ\u3099"]), (0x30B8, ["シ\u3099"]), (0x30BA, ["ス\u3099"]),
   (0x30BC, ["セ\u3099"]), (0x30BE, ["ソ\u3099"]), (0x30C0, ["タ\u3099"]), (0x30C2, ["チ\u3099"]),
   (0x30C5, ["ツ\u3099"]), (0x30C7, ["テ\u3099"]), (0x30C9, ["ト\u3099"]),
   (0x30D0, ["ハ\u3099|ハ\u309A"]), (0x30D3, ["ヒ\u3099|ヒ\u309A"]), (0x30D6, ["フ\u3099|フ\u309A"]),
   (0x30D9, ["ヘ\u3099|ヘ\u309A"]), (0x30DC, ["ホ\u3099|ホ\u309A"]), (0x30F4, ["ウ\u3099"]),
   (0x30F7, ["ワ\u3099|ヰ\u3099|ヱ\u3099|ヲ\u3099"]), (0x30FE, ["ヽ\u3099|コト"]),
   (0x3131, ["ᄀ|ᄁ|ᆪ|ᄂ|ᆬ|ᆭ|ᄃ|ᄄ|ᄅ|ᆰ|ᆱ|ᆲ|ᆳ|ᆴ|ᆵ|ᄚ|ᄆ|ᄇ|ᄈ|ᄡ|ᄉ|ᄊ|ᄋ|ᄌ|ᄍ|ᄎ|ᄏ|ᄐ|ᄑ|ᄒ|ᅡ|ᅢ|ᅣ|ᅤ|ᅥ|ᅦ|ᅧ|ᅨ|ᅩ|ᅪ|ᅫ",
     "ᅬ|ᅭ|ᅮ|ᅯ|ᅰ|ᅱ|ᅲ|ᅳ|ᅴ|ᅵ|ᅠ|ᄔ|ᄕ|ᇇ|ᇈ|ᇌ|ᇎ|ᇓ|ᇗ|ᇙ|ᄜ|ᇝ|ᇟ|ᄝ|ᄞ|ᄠ|ᄢ|ᄣ|ᄧ|ᄩ|ᄫ|ᄬ|ᄭ|ᄮ|ᄯ|ᄲ|ᄶ|ᅀ|ᅇ|ᅌ|ᇱ|ᇲ|ᅗ|ᅘ|ᅙ",
     "ᆄ|ᆅ|ᆈ|ᆑ|ᆒ|ᆔ|ᆞ|ᆡ"]),
   (0xA69C, ["ъ|ь"]), (0xA770, ["ꝯ"]), (0xA7F2, ["C|F|Q"]), (0xA7F8, ["Ħ|œ"]),
   (0xAB5C, ["ꜧ|ꬷ|ɫ|ꭒ"]), (0xAB69, ["ʍ"]),
   (0xF900, ["豈|更|車|賈|滑|串|句|龜|龜|契|金|喇|奈|懶|癩|羅|蘿|螺|裸|邏|樂|洛|烙|珞|落|酪|駱|亂|卵|欄|爛|蘭|鸞|嵐|濫|藍|襤|拉|臘|蠟|廊",
     "朗|浪|狼|郎|來|冷|勞|擄|櫓|爐|盧|老|蘆|虜|路|露|魯|鷺|碌|祿|綠|菉|錄|鹿|論|壟|弄|籠|聾|牢|磊|賂|雷|壘|屢|樓|淚|漏|累|縷|陋|勒|肋|凜|凌",
     "稜|綾|菱|陵|讀|拏|樂|諾|丹|寧|怒|率|異|北|磻|便|復|不|泌|數|索|參|塞|省|葉|說|殺|辰|沈|拾|若|掠|略|亮|兩|凉|梁|糧|良|諒|量|勵|呂|女|廬",
     "旅|濾|礪|閭|驪|麗|黎|力|曆|歷|轢|年|憐|戀|撚|漣|煉|璉|秊|練|聯|輦|蓮|連|鍊|列|劣|咽|烈|裂|說|廉|念|捻|殮|簾|獵|令|囹|寧|嶺|怜|玲|瑩|羚",
     "聆|鈴|零|靈|領|例|禮|醴|隸|惡|了|僚|寮|尿|料|樂|燎|療|蓼|遼|龍|暈|阮|劉|杻|柳|流|溜|琉|留|硫|紐|類|六|戮|陸|倫|崙|淪|輪|律|慄|栗|率|隆",
     "利|吏|履|易|李|梨|泥|理|痢|罹|裏|裡|里|離|匿|溺|吝|燐|璘|藺|隣|鱗|麟|林|淋|臨|立|笠|粒|狀|炙|識|什|茶|刺|切|度|拓|糖|宅|洞|暴|輻|行|降",
     "見|廓|兀|嗀"]),
   (0xFA10, ["塚"]), (0xFA12, ["晴"]), (0xFA15, ["凞|猪|益|礼|神|祥|福|靖|精|羽"]), (0xFA20, ["蘒"]),
   (0xFA22, ["諸"]), (0xFA25, ["逸|都"]),
   (0xFA2A, ["飯|飼|館|鶴|郞|隷|侮|僧|免|勉|勤|卑|喝|嘆|器|塀|墨|層|屮|悔|慨|憎|懲|敏|既|暑|梅|海|渚|漢|煮|爫|琢|碑|社|祉|祈|祐|祖|祝|禍",
     "禎|穀|突|節|練|縉|繁|署|者|臭|艹|艹|著|褐|視|謁|謹|賓|贈|辶|逸|難|響|頻|恵|𤋮|舘"]),
   (0xFA70, ["並|况|全|侀|充|冀|勇|勺|喝|啕|喙|嗢|塚|墳|奄|奔|婢|嬨|廒|廙|彩|徭|惘|慎|愈|憎|慠|懲|戴|揄|搜|摒|敖|晴|朗|望|杖|歹|殺|流|滛",
     "滋|漢|瀞|煮|瞧|爵|犯|猪|瑱|甆|画|瘝|瘟|益|盛|直|睊|着|磌|窱|節|类|絛|練|缾|者|荒|華|蝹|襁|覆|視|調|諸|請|謁|諾|諭|謹|變|贈|輸|遲|醙|鉶",
     "陼|難|靖|韛|響|頋|頻|鬒|龜|𢡊|𢡄|𣏕|㮝|䀘|䀹|𥉉|𥳐|𧻓|齃|龎"]),
   (0xFB00, ["ff|fi|fl|ffi|ffl|st|st"]), (0xFB13, ["մն|մե|մի|վն|մխ"]), (0xFB1D, ["י\u05B4"]),
   (0xFB1F, ["ײ\u05B7|ע|א|ד|ה|כ|ל|ם|ר|ת"]),
   (0xFB2A, ["ש\u05C1|ש\u05C2|ש\u05BC\u05C1|ש\u05BC\u05C2|א\u05B7|א\u05B8|א\u05BC|ב\u05BC",
     "ג\u05BC|ד\u05BC|ה\u05BC|ו\u05BC|ז\u05BC"]),
   (0xFB38, ["ט\u05BC|י\u05BC|ך\u05BC|כ\u05BC|ל\u05BC"]), (0xFB3E, ["מ\u05BC"]),
   (0xFB40, ["נ\u05BC|ס\u05BC"]), (0xFB43, ["ף\u05BC|פ\u05BC"]),
   (0xFB46, ["צ\u05BC|ק\u05BC|ר\u05BC|ש\u05BC|ת\u05BC|ו\u05B9|ב\u05BF|כ\u05BF|פ\u05BF|אל|ٱ|ٱ|ٻ|ٻ",
     "ٻ|ٻ|پ|پ|پ|پ|ڀ|ڀ|ڀ|ڀ|ٺ|ٺ|ٺ|ٺ|ٿ|ٿ|ٿ|ٿ|ٹ|ٹ|ٹ|ٹ|ڤ|ڤ|ڤ|ڤ|ڦ|ڦ|ڦ|ڦ|ڄ|ڄ|ڄ|ڄ|ڃ|ڃ|ڃ|ڃ|چ|چ|چ|چ|ڇ|ڇ|ڇ",
     "ڇ|ڍ|ڍ|ڌ|ڌ|ڎ|ڎ|ڈ|ڈ|ژ|ژ|ڑ|ڑ|ک|ک|ک|ک|گ|گ|گ|گ|ڳ|ڳ|ڳ|ڳ|ڱ|ڱ|ڱ|ڱ|ں|ں|ڻ|ڻ|ڻ|ڻ|ە\u0654|ە\u0654|ہ|ہ",
     "ہ|ہ|ھ|ھ|ھ|ھ|ے|ے|ے\u0654|ے\u0654"]),
   (0xFBD3, ["ڭ|ڭ|ڭ|ڭ|ۇ|ۇ|ۆ|ۆ|ۈ|ۈ|ۇٴ|ۋ|ۋ|ۅ|ۅ|ۉ|ۉ|ې|ې|ې|ې|ى|ى|ي\u0654ا|ي\u0654ا|ي\u0654ە|ي\u0654ە",
     "ي\u0654و|ي\u0654و|ي\u0654ۇ|ي\u0654ۇ|ي\u0654ۆ|ي\u0654ۆ|ي\u0654ۈ|ي\u0654ۈ|ي\u0654ې|ي\u0654ې",
     "ي\u0654ې|ي\u0654ى|ي\u0654ى|ي\u0654ى|ی|ی|ی|ی|ي\u0654ج|ي\u0654ح|ي\u0654م|ي\u0654ى|ي\u0654ي",
     "بج|بح|بخ|بم|بى|بي|تج|تح|تخ|تم|تى|تي|ثج|ثم|ثى|ثي|جح|جم|حج|حم|خج|خح|خم|سج|سح|سخ|سم|صح|صم|ضج",
     "ضح|ضخ|ضم|طح|طم|ظم|عج|عم|غج|غم|فج|فح|فخ|فم|فى|في|قح|قم|قى|قي|كا|كج|كح|كخ|كل|كم|كى|كي|لج|لح",
     "لخ|لم|لى|لي|مج|مح|مخ|مم|مى|مي|نج|نح|نخ|نم|نى|ني|هج|هم|هى|هي|يج|يح|يخ|يم|يى|يي|ذ\u0670",
     "ر\u0670|ى\u0670"]),
   (0xFC64, ["ي\u0654ر|ي\u0654ز|ي\u0654م|ي\u0654ن|ي\u0654ى|ي\u0654ي|بر|بز|بم|بن|بى|بي|تر|تز|تم",
     "تن|تى|تي|ثر|ثز|ثم|ثن|ثى|ثي|فى|في|قى|قي|كا|كل|كم|كى|كي|لم|لى|لي|ما|مم|نر|نز|نم|نن|نى|ني",
     "ى\u0670|ير|يز|يم|ين|يى|يي|ي\u0654ج|ي\u0654ح|ي\u0654خ|ي\u0654م|ي\u0654ه|بج|بح|بخ|بم|به|تج",
     "تح|تخ|تم|ته|ثم|جح|جم|حج|حم|خج|خم|سج|سح|سخ|سم|صح|صخ|صم|ضج|ضح|ضخ|ضم|طح|ظم|عج|عم|غج|غم|فج|فح",
     "فخ|فم|قح|قم|كج|كح|كخ|كل|كم|لج|لح|لخ|لم|له|مج|مح|مخ|مم|نج|نح|نخ|نم|نه|هج|هم|ه\u0670|يج|يح",
     "يخ|يم|يه|ي\u0654م|ي\u0654ه|بم|به|تم|ته|ثم|ثه|سم|سه|شم|شه|كل|كم|لم|نم|نه|يم|يه",
     "ـ\u064E\u0651|ـ\u064F\u0651|ـ\u0650\u0651|طى|طي|عى|عي|غى|غي|سى|سي|شى|شي|حى|حي|جى|جي|خى|خي",
     "صى|صي|ضى|ضي|شج|شح|شخ|شم|شر|سر|صر|ضر|طى|طي|عى|عي|غى|غي|سى|سي|شى|شي|حى|حي|جى|جي|خى|خي|صى|صي",
     "ضى|ضي|شج|شح|شخ|شم|شر|سر|صر|ضر|شج|شح|شخ|شم|سه|شه|طم|سج|سح|سخ|شج|شح|شخ|طم|ظم|ا\u064B|ا\u064B"]),
   (0xFD50, ["تجم|تحج|تحج|تحم|تخم|تمج|تمح|تمخ|جمح|جمح|حمي|حمى|سحج|سجح|سجى|سمح|سمح|سمج|سمم|سمم",
     "صحح|صحح|صمم|شحم|شحم|شجي|شمخ|شمخ|شمم|شمم|ضحى|ضخم|ضخم|طمح|طمح|طمم|طمي|عجم|عمم|عمم|عمى|غمم",
     "غمي|غمى|فخم|فخم|قمح|قمم|لحم|لحي|لحى|لجج|لجج|لخم|لخم|لمح|لمح|محج|محم|محي|مجح|مجم|مخج|مخم"]),
   (0xFD92, ["مجخ|همج|همم|نحم|نحى|نجم|نجم|نجى|نمي|نمى|يمم|يمم|بخي|تجي|تجى|تخي|تخى|تمي|تمى|جمي",
     "جحى|جمى|سخى|صحي|شحي|ضحي|لجي|لمي|يحي|يجي|يمي|ممي|قمي|نحي|قمح|لحم|عمي|كمي|نجح|مخي|لجم|كمم",
     "لجم|نجح|جحي|حجي|مجي|فمي|بحي|كمم|عجم|صمم|سخي|نجي"]),
   (0xFDF0, ["صلے|قلے|الله|اكبر|محمد|صلعم|رسول|عليه|وسلم|صلى"]), (0xFE33, ["_|_"]),
   (0xFE4D, ["_|_|_"]), (0xFE71, ["ـ\u064B"]), (0xFE77, ["ـ\u064E"]), (0xFE79, ["ـ\u064F"]),
   (0xFE7B, ["ـ\u0650"]), (0xFE7D, ["ـ\u0651"]),
   (0xFE7F, ["ـ\u0652|ء|ا\u0653|ا\u0653|ا\u0654|ا\u0654|و\u0654|و\u0654|ا\u0655|ا\u0655|ي\u0654",
     "ي\u0654|ي\u0654|ي\u0654|ا|ا|ب|ب|ب|ب|ة|ة|ت|ت|ت|ت|ث|ث|ث|ث|ج|ج|ج|ج|ح|ح|ح|ح|خ|خ|خ|خ|د|د|ذ|ذ|ر",
     "ر|ز|ز|س|س|س|س|ش|ش|ش|ش|ص|ص|ص|ص|ض|ض|ض|ض|ط|ط|ط|ط|ظ|ظ|ظ|ظ|ع|ع|ع|ع|غ|غ|غ|غ|ف|ف|ف|ف|ق|ق|ق|ق|ك|ك",
     "ك|ك|ل|ل|ل|ل|م|م|م|م|ن|ن|ن|ن|ه|ه|ه|ه|و|و|ى|ى|ي|ي|ي|ي|لا\u0653|لا\u0653|لا\u0654|لا\u0654",
     "لا\u0655|لا\u0655|لا|لا"]),
   (0xFF10, ["0|1|2|3|4|5|6|7|8|9"]),
   (0xFF21, ["A|B|C|D|E|F|G|H|I|J|K|L|M|N|O|P|Q|R|S|T|U|V|W|X|Y|Z"]), (0xFF3F, ["_"]),
   (0xFF41, ["a|b|c|d|e|f|g|h|i|j|k|l|m|n|o|p|q|r|s|t|u|v|w|x|y|z"]),
   (0xFF66, ["ヲ|ァ|ィ|ゥ|ェ|ォ|ャ|ュ|ョ|ッ|ー|ア|イ|ウ|エ|オ|カ|キ|ク|ケ|コ|サ|シ|ス|セ|ソ|タ|チ|ツ|テ|ト|ナ|ニ|ヌ|ネ|ノ|ハ|ヒ|フ|ヘ|ホ",
     "マ|ミ|ム|メ|モ|ヤ|ユ|ヨ|ラ|リ|ル|レ|ロ|ワ|ン|\u3099|\u309A|ᅠ|ᄀ|ᄁ|ᆪ|ᄂ|ᆬ|ᆭ|ᄃ|ᄄ|ᄅ|ᆰ|ᆱ|ᆲ|ᆳ|ᆴ|ᆵ|ᄚ|ᄆ|ᄇ|ᄈ|ᄡ|ᄉ|ᄊ",
     "ᄋ|ᄌ|ᄍ|ᄎ|ᄏ|ᄐ|ᄑ|ᄒ"]),
   (0xFFC2, ["ᅡ|ᅢ|ᅣ|ᅤ|ᅥ|ᅦ"]), (0xFFCA, ["ᅧ|ᅨ|ᅩ|ᅪ|ᅫ|ᅬ"]), (0xFFD2, ["ᅭ|ᅮ|ᅯ|ᅰ|ᅱ|ᅲ"]),
   (0xFFDA, ["ᅳ|ᅴ|ᅵ"]), (0x10781, ["ː|ˑ|æ|ʙ|ɓ"]),
   (0x10787, ["ʣ|ꭦ|ʥ|ʤ|ɖ|ɗ|ᶑ|ɘ|ɞ|ʩ|ɤ|ɢ|ɠ|ʛ|ħ|ʜ|ɧ|ʄ|ʪ|ʫ|ɬ|𝼄|ꞎ|ɮ|𝼅|ʎ|𝼆|ø|ɶ|ɷ|q|ɺ|𝼈|ɽ|ɾ|ʀ|ʨ|ʦ|ꭧ|ʧ|ʈ",
     "ⱱ"]),
   (0x107B2, ["ʏ|ʡ|ʢ|ʘ|ǀ|ǁ|ǂ|𝼊|𝼞"]), (0x1109A, ["𑂚"]), (0x1109C, ["𑂜"]), (0x110AB, ["𑂫"]),
   (0x1112E, ["𑄮|𑄯"]), (0x1134B, ["𑍋|𑍌"]), (0x114BB, ["𑒻|𑒼"]), (0x114BE, ["𑒾"]),
   (0x115BA, ["𑖺|𑖻"]),
   (0x1D400, ["A|B|C|D|E|F|G|H|I|J|K|L|M|N|O|P|Q|R|S|T|U|V|W|X|Y|Z|a|b|c|d|e|f|g|h|i|j|k|l|m|n|o",
     "p|q|r|s|t|u|v|w|x|y|z|A|B|C|D|E|F|G|H|I|J|K|L|M|N|O|P|Q|R|S|T|U|V|W|X|Y|Z|a|b|c|d|e|f|g"]),
   (0x1D456, ["i|j|k|l|m|n|o|p|q|r|s|t|u|v|w|x|y|z|A|B|C|D|E|F|G|H|I|J|K|L|M|N|O|P|Q|R|S|T|U|V|W",
     "X|Y|Z|a|b|c|d|e|f|g|h|i|j|k|l|m|n|o|p|q|r|s|t|u|v|w|x|y|z|A"]),
   (0x1D49E, ["C|D"]), (0x1D4A2, ["G"]), (0x1D4A5, ["J|K"]), (0x1D4A9, ["N|O|P|Q"]),
   (0x1D4AE, ["S|T|U|V|W|X|Y|Z|a|b|c|d"]), (0x1D4BB, ["f"]), (0x1D4BD, ["h|i|j|k|l|m|n"]),
   (0x1D4C5, ["p|q|r|s|t|u|v|w|x|y|z|A|B|C|D|E|F|G|H|I|J|K|L|M|N|O|P|Q|R|S|T|U|V|W|X|Y|Z|a|b|c|d",
     "e|f|g|h|i|j|k|l|m|n|o|p|q|r|s|t|u|v|w|x|y|z|A|B"]),
   (0x1D507, ["D|E|F|G"]), (0x1D50D, ["J|K|L|M|N|O|P|Q"]), (0x1D516, ["S|T|U|V|W|X|Y"]),
   (0x1D51E, ["a|b|c|d|e|f|g|h|i|j|k|l|m|n|o|p|q|r|s|t|u|v|w|x|y|z|A|B"]), (0x1D53B, ["D|E|F|G"]),
   (0x1D540, ["I|J|K|L|M"]), (0x1D546, ["O"]), (0x1D54A, ["S|T|U|V|W|X|Y"]),
   (0x1D552, ["a|b|c|d|e|f|g|h|i|j|k|l|m|n|o|p|q|r|s|t|u|v|w|x|y|z|A|B|C|D|E|F|G|H|I|J|K|L|M|N|O",
     "P|Q|R|S|T|U|V|W|X|Y|Z|a|b|c|d|e|f|g|h|i|j|k|l|m|n|o|p|q|r|s|t|u|v|w|x|y|z|A|B|C|D|E|F|G|H",
     "I|J|K|L|M|N|O|P|Q|R|S|T|U|V|W|X|Y|Z|a|b|c|d|e|f|g|h|i|j|k|l|m|n|o|p|q|r|s|t|u|v|w|x|y|z|A",
     "B|C|D|E|F|G|H|I|J|K|L|M|N|O|P|Q|R|S|T|U|V|W|X|Y|Z|a|b|c|d|e|f|g|h|i|j|k|l|m|n|o|p|q|r|s|t",
     "u|v|w|x|y|z|A|B|C|D|E|F|G|H|I|J|K|L|M|N|O|P|Q|R|S|T|U|V|W|X|Y|Z|a|b|c|d|e|f|g|h|i|j|k|l|m",
     "n|o|p|q|r|s|t|u|v|w|x|y|z|A|B|C|D|E|F|G|H|I|J|K|L|M|N|O|P|Q|R|S|T|U|V|W|X|Y|Z|a|b|c|d|e|f",
     "g|h|i|j|k|l|m|n|o|p|q|r|s|t|u|v|w|x|y|z|A|B|C|D|E|F|G|H|I|J|K|L|M|N|O|P|Q|R|S|T|U|V|W|X|Y",
     "Z|a|b|c|d|e|f|g|h|i|j|k|l|m|n|o|p|q|r|s|t|u|v|w|x|y|z|ı|ȷ"]),
   (0x1D6A8, ["Α|Β|Γ|Δ|Ε|Ζ|Η|Θ|Ι|Κ|Λ|Μ|Ν|Ξ|Ο|Π|Ρ|Θ|Σ|Τ|Υ|Φ|Χ|Ψ|Ω"]),
   (0x1D6C2, ["α|β|γ|δ|ε|ζ|η|θ|ι|κ|λ|μ|ν|ξ|ο|π|ρ|ς|σ|τ|υ|φ|χ|ψ|ω"]),
   (0x1D6DC, ["ε|θ|κ|φ|ρ|π|Α|Β|Γ|Δ|Ε|Ζ|Η|Θ|Ι|Κ|Λ|Μ|Ν|Ξ|Ο|Π|Ρ|Θ|Σ|Τ|Υ|Φ|Χ|Ψ|Ω"]),
   (0x1D6FC, ["α|β|γ|δ|ε|ζ|η|θ|ι|κ|λ|μ|ν|ξ|ο|π|ρ|ς|σ|τ|υ|φ|χ|ψ|ω"]),
   (0x1D716, ["ε|θ|κ|φ|ρ|π|Α|Β|Γ|Δ|Ε|Ζ|Η|Θ|Ι|Κ|Λ|Μ|Ν|Ξ|Ο|Π|Ρ|Θ|Σ|Τ|Υ|Φ|Χ|Ψ|Ω"]),
   (0x1D736, ["α|β|γ|δ|ε|ζ|η|θ|ι|κ|λ|μ|ν|ξ|ο|π|ρ|ς|σ|τ|υ|φ|χ|ψ|ω"]),
   (0x1D750, ["ε|θ|κ|φ|ρ|π|Α|Β|Γ|Δ|Ε|Ζ|Η|Θ|Ι|Κ|Λ|Μ|Ν|Ξ|Ο|Π|Ρ|Θ|Σ|Τ|Υ|Φ|Χ|Ψ|Ω"]),
   (0x1D770, ["α|β|γ|δ|ε|ζ|η|θ|ι|κ|λ|μ|ν|ξ|ο|π|ρ|ς|σ|τ|υ|φ|χ|ψ|ω"]),
   (0x1D78A, ["ε|θ|κ|φ|ρ|π|Α|Β|Γ|Δ|Ε|Ζ|Η|Θ|Ι|Κ|Λ|Μ|Ν|Ξ|Ο|Π|Ρ|Θ|Σ|Τ|Υ|Φ|Χ|Ψ|Ω"]),
   (0x1D7AA, ["α|β|γ|δ|ε|ζ|η|θ|ι|κ|λ|μ|ν|ξ|ο|π|ρ|ς|σ|τ|υ|φ|χ|ψ|ω"]), (0x1D7C4, ["ε|θ|κ|φ|ρ|π|Ϝ|ϝ"]),
   (0x1D7CE, ["0|1|2|3|4|5|6|7|8|9|0|1|2|3|4|5|6|7|8|9|0|1|2|3|4|5|6|7|8|9|0|1|2|3|4|5|6|7|8|9|0",
     "1|2|3|4|5|6|7|8|9"]),
   (0x1EE00, ["ا|ب|ج|د"]), (0x1EE05, ["و|ز|ح|ط|ي|ك|ل|م|ن|س|ع|ف|ص|ق|ر|ش|ت|ث|خ|ذ|ض|ظ|غ|ٮ|ں|ڡ|ٯ"]),
   (0x1EE21, ["ب|ج"]), (0x1EE24, ["ه"]), (0x1EE27, ["ح"]), (0x1EE29, ["ي|ك|ل|م|ن|س|ع|ف|ص|ق"]),
   (0x1EE34, ["ش|ت|ث|خ"]), (0x1EE39, ["ض"]), (0x1EE3B, ["غ"]), (0x1EE42, ["ج"]), (0x1EE47, ["ح"]),
   (0x1EE49, ["ي"]), (0x1EE4B, ["ل"]), (0x1EE4D, ["ن|س|ع"]), (0x1EE51, ["ص|ق"]), (0x1EE54, ["ش"]),
   (0x1EE57, ["خ"]), (0x1EE59, ["ض"]), (0x1EE5B, ["غ"]), (0x1EE5D, ["ں"]), (0x1EE5F, ["ٯ"]),
   (0x1EE61, ["ب|ج"]), (0x1EE64, ["ه"]), (0x1EE67, ["ح|ط|ي|ك"]), (0x1EE6C, ["م|ن|س|ع|ف|ص|ق"]),
   (0x1EE74, ["ش|ت|ث|خ"]), (0x1EE79, ["ض|ظ|غ|ٮ"]), (0x1EE7E, ["ڡ"]),
   (0x1EE80, ["ا|ب|ج|د|ه|و|ز|ح|ط|ي"]), (0x1EE8B, ["ل|م|ن|س|ع|ف|ص|ق|ر|ش|ت|ث|خ|ذ|ض|ظ|غ"]),
   (0x1EEA1, ["ب|ج|د"]), (0x1EEA5, ["و|ز|ح|ط|ي"]), (0x1EEAB, ["ل|م|ن|س|ع|ف|ص|ق|ر|ش|ت|ث|خ|ذ|ض|ظ|غ"]),
   (0x1FBF0, ["0|1|2|3|4|5|6|7|8|9"]),
   (0x2F800, ["丽|丸|乁|𠄢|你|侮|侻|倂|偺|備|僧|像|㒞|𠘺|免|兔|兤|具|𠔜|㒹|內|再|𠕋|冗|冤|仌|冬|况|𩇟|凵|刃|㓟|刻|剆|割|剷|㔕|勇|勉|勤|勺",
     "包|匆|北|卉|卑|博|即|卽|卿|卿|卿|𠨬|灰|及|叟|𠭣|叫|叱|吆|咞|吸|呈|周|咢|哶|唐|啓|啣|善|善|喙|喫|喳|嗂|圖|嘆|圗|噑|噴|切|壮|城|埴|堍|型",
     "堲|報|墬|𡓤|売|壷|夆|多|夢|奢|𡚨|𡛪|姬|娛|娧|姘|婦|㛮|㛼|嬈|嬾|嬾|𡧈|寃|寘|寧|寳|𡬘|寿|将|当|尢|㞁|屠|屮|峀|岍|𡷤|嵃|𡷦|嵮|嵫|嵼|巡|巢",
     "㠯|巽|帨|帽|幩|㡢|𢆃|㡼|庰|庳|庶|廊|𪎒|廾|𢌱|𢌱|舁|弢|弢|㣇|𣊸|𦇚|形|彫|㣣|徚|忍|志|忹|悁|㤺|㤜|悔|𢛔|惇|慈|慌|慎|慌|慺|憎|憲|憤|憯|懞",
     "懲|懶|成|戛|扝|抱|拔|捐|𢬌|挽|拼|捨|掃|揤|𢯱|搢|揅|掩|㨮|摩|摾|撝|摷|㩬|敏|敬|𣀊|旣|書|晉|㬙|暑|㬈|㫤|冒|冕|最|暜|肭|䏙|朗|望|朡|杞|杓",
     "𣏃|㭉|柺|枅|桒|梅|𣑭|梎|栟|椔|㮝|楂|榣|槪|檨|𣚣|櫛|㰘|次|𣢧|歔|㱎|歲|殟|殺|殻|𣪍|𡴋|𣫺|汎|𣲼|沿|泍|汧|洖|派|海|流|浩|浸|涅|𣴞|洴|港|湮",
     "㴳|滋|滇|𣻑|淹|潮|𣽞|𣾎|濆|瀹|瀞|瀛|㶖|灊|災|灷|炭|𠔥|煅|𤉣|熜|𤎫|爨|爵|牐|𤘈|犀|犕|𤜵|𤠔|獺|王|㺬|玥|㺸|㺸|瑇|瑜|瑱|璅|瓊|㼛|甤|𤰶|甾",
     "𤲒|異|𢆟|瘐|𤾡|𤾸|𥁄|㿼|䀈|直|𥃳|𥃲|𥄙|𥄳|眞|真|真|睊|䀹|瞋|䁆|䂖|𥐝|硎|碌|磌|䃣|𥘦|祖|𥚚|𥛅|福|秫|䄯|穀|穊|穏|𥥼|𥪧|𥪧|竮|䈂|𥮫|篆|築",
     "䈧|𥲀|糒|䊠|糨|糣|紀|𥾆|絣|䌁|緇|縂|繅|䌴|𦈨|𦉇|䍙|𦋙|罺|𦌾|羕|翺|者|𦓚|𦔣|聠|𦖨|聰|𣍟|䏕|育|脃|䐋|脾|媵|𦞧|𦞵|𣎓|𣎜|舁|舄|辞|䑫|芑|芋",
     "芝|劳|花|芳|芽|苦|𦬼|若|茝|荣|莭|茣|莽|菧|著|荓|菊|菌|菜|𦰶|𦵫|𦳕|䔫|蓱|蓳|蔖|𧏊|蕤|𦼬|䕝|䕡|𦾱|𧃒|䕫|虐|虜|虧|虩|蚩|蚈|蜎|蛢|蝹|蜨|蝫",
     "螆|䗗|蟡|蠁|䗹|衠|衣|𧙧|裗|裞|䘵|裺|㒻|𧢮|𧥦|䚾|䛇|誠|諭|變|豕|𧲨|貫|賁|贛|起|𧼯|𠠄|跋|趼|跰|𠣞|軔|輸|𨗒|𨗭|邔|郱|鄑|𨜮|鄛|鈸|鋗|鋘|鉼",
     "鏹|鐕|𨯺|開|䦕|閷|𨵷|䧦|雃|嶲|霣|𩅅|𩈚|䩮|䩶|韠|𩐊|䪲|𩒖|頋|頋|頩|𩖶|飢|䬳|餩|馧|駂|駾|䯎|𩬰|鬒|鱀|鳽|䳎|䳭|鵧|𪃎|䳸|𪄅|𪈎|𪊑|麻|䵖|黹",
     "黾|鼅|鼏|鼖|鼻|𪘀"])]

def syllableLetters (code : Nat) : List Char :=
  let index := code - 0xAC00
  let last := index % 28
  [Char.ofNat (0x1100 + index / 588), Char.ofNat (0x1161 + index % 588 / 28)] ++
    (if last = 0 then [] else [Char.ofNat (0x11A7 + last)])

def decomposed (c : Char) : List Char :=
  if c.toNat < 0x80 then [c]
  else if 0xAC00 ≤ c.toNat && c.toNat ≤ 0xD7A3 then syllableLetters c.toNat
  else
    let found := decompositions.findSome? fun (start, lines) =>
      if c.toNat < start then none else (entriesOf lines)[c.toNat - start]?
    found.getD [c]

/-- A name with its characters taken apart. Names with the same key are one name. -/
def nameKey (s : String) : List Char :=
  s.toList.flatMap decomposed

end PageServer.Text
