import JudgeVortex.Executor.Workspace
import JudgeVortex.Python.OsPath
import JudgeVortex.Python.Shlex

/-!
# Compile and run commands

`_build_commands` of `executor_service/sandbox.py`.  The compilers of C and C++ run
through a shell, on a command line that holds the entry path twice.
-/

namespace JudgeVortex.Executor

open JudgeVortex.Foundation.Shell JudgeVortex.Python JudgeVortex.Shared

def normalizeRelpath (path : String) : String := replace "\\" "/" path

structure Commands where
  compile : Option (List String)
  run : List String
  deriving DecidableEq, Repr

/-- The command lines of C and C++, which differ in what stands before the paths. -/
def compileScript (compiler sources entry : String) : String :=
  compiler ++ shlexQuote entry ++ sources ++ "'./" ++ entry ++ "' | sort) -o out"

def cppScript (entry : String) : String :=
  compileScript "g++ -O2 -std=c++20 " " $(find . -type f -name '*.cpp' ! -path " entry

def cScript (entry : String) : String :=
  compileScript "gcc -O3 -std=c17 " " $(find . -type f -name '*.c' ! -path " entry

def buildCommands (language entryFile : String) : Option Commands :=
  let entry := normalizeRelpath entryFile
  if language = "python" then some ⟨none, ["python3", entry]⟩
  else if language = "javascript" then some ⟨none, ["node", entry]⟩
  else if language = "ruby" then some ⟨none, ["ruby", entry]⟩
  else if language = "php" then some ⟨none, ["php", entry]⟩
  else if language = "cpp" then
    some ⟨some ["/bin/sh", "-lc", cppScript entry], ["./out"]⟩
  else if language = "c" then
    some ⟨some ["/bin/sh", "-lc", cScript entry], ["./out"]⟩
  else if language = "go" then
    some ⟨some ["/bin/sh", "-lc",
      "/usr/local/go/bin/go build -o out $(find . -type f -name '*.go' | sort)"], ["./out"]⟩
  else if language = "rust" then
    some ⟨some ["rustc", "-O", "--edition=2021", entry, "-o", "out"], ["./out"]⟩
  else if language = "java" then
    let className := (osPathSplitext (osPathBasename entry)).1
    let directory := osPathDirname entry
    some ⟨some ["javac", "--release", "21", "-J-Xms8m", "-J-Xmx128m",
        "-J-XX:ReservedCodeCacheSize=32m", "-J-XX:+UseSerialGC", entry],
      ["java", "-Xms8m", "-Xmx64m", "-XX:ReservedCodeCacheSize=32m", "-XX:+UseSerialGC", "-cp",
        if directory = "" then "." else directory, className]⟩
  else if language = "typescript" then
    let output := normalizeRelpath (osPathJoin "dist" ((osPathSplitext entry).1 ++ ".js"))
    some ⟨some ["tsc", entry, "--target", "es2019", "--module", "commonjs", "--outDir", "dist"],
      ["node", output]⟩
  else if language = "sql" then
    some ⟨none, ["sqlite3", ":memory:", "-batch", "-init", "setup.sql", ".read " ++ entry]⟩
  else none

/-! ## What the shell reads -/

def word (text : String) : Token := literal text.toList

def compileTokens (compiler : List String) (pattern entry : String) : List Token :=
  compiler.map word ++
    [word entry,
     .word [.command [word "find", word ".", word "-type", word "f", word "-name",
       word pattern, word "!", word "-path", word ("./" ++ entry), .operator '|', word "sort"]],
     word "-o", word "out"]

/-- A language that is compiled through a shell with the entry path in the command. -/
structure ShellCompiler where
  language : String
  command : List String
  pattern : String

def shellCompilers : List ShellCompiler :=
  [⟨"cpp", ["g++", "-O2", "-std=c++20"], "*.cpp"⟩, ⟨"c", ["gcc", "-O3", "-std=c17"], "*.c"⟩]

private theorem run_sources_cpp (tokens : List Token) (parts : List Part) :
    run ⟨.plain, ⟨tokens, some parts, 0, false⟩, []⟩
        " $(find . -type f -name '*.cpp' ! -path ".toList =
      ⟨.plain, ⟨[word "find", word ".", word "-type", word "f", word "-name", word "*.cpp",
        word "!", word "-path"], none, 0, false⟩, [⟨tokens ++ [.word parts], none, 0, false⟩]⟩ := by
  simp [run, step, plainStep, Frame.endWord, Frame.push, Frame.openWord, operatorSymbols,
    expansionSymbols, word, literal]

private theorem run_sources_c (tokens : List Token) (parts : List Part) :
    run ⟨.plain, ⟨tokens, some parts, 0, false⟩, []⟩
        " $(find . -type f -name '*.c' ! -path ".toList =
      ⟨.plain, ⟨[word "find", word ".", word "-type", word "f", word "-name", word "*.c",
        word "!", word "-path"], none, 0, false⟩, [⟨tokens ++ [.word parts], none, 0, false⟩]⟩ := by
  simp [run, step, plainStep, Frame.endWord, Frame.push, Frame.openWord, operatorSymbols,
    expansionSymbols, word, literal]

private theorem finish_sources (tokens found : List Token) (parts : List Part) :
    finish (run ⟨.plain, ⟨found, some parts, 0, false⟩, [⟨tokens, none, 0, false⟩]⟩
        " | sort) -o out".toList) =
      some (tokens ++ [.word [.command (found ++ [.word parts, .operator '|', word "sort"])],
        word "-o", word "out"]) := by
  simp [finish, run, step, plainStep, closeParen, Frame.operator, Frame.endWord, Frame.push,
    operatorSymbols, expansionSymbols, Mode.unquoted, word, literal]

private theorem count_compileTokens {command : List String} {pattern : String} (entry : String)
    (hcommand : countTokens '\'' (command.map word) = 0) (hpattern : '\'' ∉ pattern.toList) :
    countTokens '\'' (compileTokens command pattern entry) = 2 * entry.toList.count '\'' := by
  rw [compileTokens, countTokens_append, hcommand]
  simp [countTokens, Token.count, countParts, Part.count, word,
    List.count_eq_zero_of_not_mem hpattern]
  omega

private theorem tokenize_compileScript_iff {compiler sources pattern entry : String}
    {command : List String} (hslash : '\\' ∉ entry.toList)
    (hcompiler : run start compiler.toList = ⟨.plain, ⟨command.map word, none, 0, false⟩, []⟩)
    (hsources : ∀ tokens parts, run ⟨.plain, ⟨tokens, some parts, 0, false⟩, []⟩ sources.toList =
      ⟨.plain, ⟨[word "find", word ".", word "-type", word "f", word "-name", word pattern,
        word "!", word "-path"], none, 0, false⟩, [⟨tokens ++ [.word parts], none, 0, false⟩]⟩)
    (hcommand : countTokens '\'' (command.map word) = 0) (hpattern : '\'' ∉ pattern.toList) :
    tokenize (compileScript compiler sources entry) =
        some (compileTokens command pattern entry) ↔ '\'' ∉ entry.toList := by
  have hopen : "'./".toList = '\'' :: "./".toList := by decide
  have hclose : "' | sort) -o out".toList = '\'' :: " | sort) -o out".toList := by decide
  have hscript : (compileScript compiler sources entry).toList =
      compiler.toList ++ ((shlexQuote entry).toList ++ (sources.toList ++
        ('\'' :: ("./" ++ entry).toList ++ '\'' :: " | sort) -o out".toList))) := by
    simp only [compileScript, String.toList_append, hopen, hclose, List.cons_append,
      List.append_assoc]
  have hpath : '\'' ∈ ("./" ++ entry).toList ↔ '\'' ∈ entry.toList := by
    rw [String.toList_append, List.mem_append, or_iff_right (by decide)]
  rw [tokenize, hscript, run_append, hcompiler, run_append, run_shlexQuote, run_append]
  simp only [Frame.pushText, Option.getD_none, List.nil_append]
  rw [hsources]
  constructor
  · intro h hquote
    have hnoSlash : '\\' ∉ ("./" ++ entry).toList := by
      rw [String.toList_append, List.mem_append, not_or]
      exact ⟨by decide, hslash⟩
    have htail : ∀ c ∈ " | sort) -o out".toList, c ≠ '\'' ∧ c ≠ '"' ∧ c ≠ '\\' ∧ c ≠ '$' := by
      simp
    have hlt := count_finish_splice_lt _ _ (hpath.mpr hquote) hnoSlash htail h
    have hentry : ("./" ++ entry).toList.count '\'' = entry.toList.count '\'' := by
      rw [String.toList_append, List.count_append, Nat.add_eq_right]
      decide
    -- The template has each quote of the path twice; the second copy lost one.
    rw [count_compileTokens entry hcommand hpattern, hentry] at hlt
    simp [Frame.count, countTokens, countParts, hcommand, word, Token.count,
      List.count_eq_zero_of_not_mem hpattern] at hlt
    omega
  · intro hquote
    have hnot : '\'' ∉ ("./" ++ entry).toList := fun hmem => hquote (hpath.mp hmem)
    have hsplit : '\'' :: ("./" ++ entry).toList ++ '\'' :: " | sort) -o out".toList =
        ('\'' :: ("./" ++ entry).toList ++ ['\'']) ++ " | sort) -o out".toList := by
      rw [List.append_assoc, List.singleton_append]
    rw [hsplit, run_append, run_quoted hnot]
    exact (finish_sources _ _ _).trans (by simp [compileTokens, word, literal])

private theorem run_compiler_cpp : run start "g++ -O2 -std=c++20 ".toList =
    ⟨.plain, ⟨["g++", "-O2", "-std=c++20"].map word, none, 0, false⟩, []⟩ := by
  simp [run, start, step, plainStep, Frame.endWord, Frame.push, operatorSymbols,
    expansionSymbols, word, literal]

private theorem run_compiler_c : run start "gcc -O3 -std=c17 ".toList =
    ⟨.plain, ⟨["gcc", "-O3", "-std=c17"].map word, none, 0, false⟩, []⟩ := by
  simp [run, start, step, plainStep, Frame.endWord, Frame.push, operatorSymbols,
    expansionSymbols, word, literal]

private theorem tokenize_cpp_iff {entry : String} (hslash : '\\' ∉ entry.toList) :
    tokenize (cppScript entry) =
        some (compileTokens ["g++", "-O2", "-std=c++20"] "*.cpp" entry) ↔
      '\'' ∉ entry.toList := by
  have hcommand : countTokens '\'' (["g++", "-O2", "-std=c++20"].map word) = 0 := by
    simp [countTokens, word]
  have hpattern : '\'' ∉ "*.cpp".toList := by decide
  exact tokenize_compileScript_iff hslash run_compiler_cpp run_sources_cpp hcommand hpattern

private theorem tokenize_c_iff {entry : String} (hslash : '\\' ∉ entry.toList) :
    tokenize (cScript entry) = some (compileTokens ["gcc", "-O3", "-std=c17"] "*.c" entry) ↔
      '\'' ∉ entry.toList := by
  have hcommand : countTokens '\'' (["gcc", "-O3", "-std=c17"].map word) = 0 := by
    simp [countTokens, word]
  have hpattern : '\'' ∉ "*.c".toList := by decide
  exact tokenize_compileScript_iff hslash run_compiler_c run_sources_c hcommand hpattern

/-- The entry path is data to the shell exactly if it has no single quote. -/
theorem tokenize_compile_iff {text entry : String} {compiler : ShellCompiler}
    (hentry : sanitizeRelativeFilePath text = some entry) (hcompiler : compiler ∈ shellCompilers) :
    ∃ script, (buildCommands compiler.language entry).bind Commands.compile =
        some ["/bin/sh", "-lc", script] ∧
      (tokenize script = some (compileTokens compiler.command compiler.pattern entry) ↔
        '\'' ∉ entry.toList) := by
  have hslash : '\\' ∉ entry.toList := by
    rw [safePath_eq_candidate hentry]
    exact backslash_not_mem_pathCandidate text
  have hrelpath : normalizeRelpath entry = entry := by
    apply String.toList_injective
    rw [normalizeRelpath, toList_replace]
    exact replaceFrom_of_not_mem (c := '\\') (by decide) hslash
  rcases List.mem_cons.mp hcompiler with rfl | hcompiler
  · exact ⟨cppScript entry, by simp [buildCommands, hrelpath], tokenize_cpp_iff hslash⟩
  · obtain rfl := List.mem_singleton.mp hcompiler
    exact ⟨cScript entry, by simp [buildCommands, hrelpath], tokenize_c_iff hslash⟩

theorem tokenize_compile_main :
    ∃ script, (buildCommands "c" "src/main.c").bind Commands.compile =
        some ["/bin/sh", "-lc", script] ∧
      (tokenize script = some (compileTokens ["gcc", "-O3", "-std=c17"] "*.c" "src/main.c") ↔
        '\'' ∉ "src/main.c".toList) :=
  @tokenize_compile_iff "src\\main.c" "src/main.c" ⟨"c", ["gcc", "-O3", "-std=c17"], "*.c"⟩
    (by decide +kernel) (by simp [shellCompilers])

/-- The entry path ends the quotes around it, and its middle is a command of its own. -/
theorem entry_runs_command :
    sanitizeRelativeFilePath "a';id;'.cpp" = some "a';id;'.cpp" ∧
      ∃ script, (buildCommands "cpp" "a';id;'.cpp").bind Commands.compile =
          some ["/bin/sh", "-lc", script] ∧
        tokenize script ≠
          some (compileTokens ["g++", "-O2", "-std=c++20"] "*.cpp" "a';id;'.cpp") ∧
        tokenize script = some (["g++", "-O2", "-std=c++20", "a';id;'.cpp"].map word ++
          [.word [.command [word "find", word ".", word "-type", word "f", word "-name",
            word "*.cpp", word "!", word "-path", word "./a", .operator ';', word "id",
            .operator ';', word ".cpp", .operator '|', word "sort"]],
          word "-o", word "out"]) := by
  have hrelpath : normalizeRelpath "a';id;'.cpp" = "a';id;'.cpp" := by decide
  refine ⟨by decide +kernel, cppScript "a';id;'.cpp", by simp [buildCommands, hrelpath],
    ?_, ?_⟩
  · rw [ne_eq, tokenize_cpp_iff (by decide)]
    decide
  · have hspliced : "'./".toList ++ "a';id;'.cpp".toList ++ "' | sort) -o out".toList =
        "'./a';id;'.cpp' | sort) -o out".toList := by decide
    simp only [tokenize, cppScript, compileScript, String.toList_append, List.append_assoc]
      at hspliced ⊢
    rw [run_append, run_compiler_cpp, run_append, run_shlexQuote, run_append]
    simp only [Frame.pushText, Option.getD_none, List.nil_append]
    rw [run_sources_cpp, hspliced]
    simp [finish, run, step, plainStep, closeParen, Frame.operator, Frame.endWord, Frame.push,
      Frame.openWord, operatorSymbols, expansionSymbols, Mode.unquoted, word, literal]

end JudgeVortex.Executor
