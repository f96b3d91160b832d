import NativeGlue.Adapter

set_option autoImplicit false

/-! # The prelude of a generated unit

Every unit defines the macro that marks exported functions, and carries the definitions of the
built-in adapters it uses. A built-in adapter also needs standard headers. -/

namespace NativeGlue.Source

/-- A text of the given lines. -/
def ofLines (lines : List String) : String := String.join (lines.map (· ++ "\n"))

/-- The macro that marks exported functions. -/
def exportName : String := "NATIVEBIND_EXPORT"

/-- The definition of the export macro. -/
def exportLines : List String := [
  "#if defined(_WIN32)",
  "#define NATIVEBIND_EXPORT __declspec(dllexport)",
  "#else",
  "#define NATIVEBIND_EXPORT __attribute__((visibility(\"default\")))",
  "#endif"]

/-- The class that converts between a pointer with a length and text. -/
def stringAdapterLines : List String := [
  "class StringAdapter \x7b",
  "public:",
  "    StringAdapter(const char* ptr, size_t size)",
  "        : owner(nullptr), size(size), str2(ptr != nullptr ? std::string(ptr, size) : std::string()), str(str2) \x7b \x7d",
  "    StringAdapter(const std::string& value)",
  "        : owner(nullptr), size(value.size()), str2(value), str(str2) \x7b \x7d",
  "    StringAdapter(const StringAdapter&) = delete;",
  "    StringAdapter& operator=(const StringAdapter&) = delete;",
  "",
  "    static void deallocate(void* owner) \x7b delete[] static_cast<char*>(owner); \x7d",
  "",
  "    operator char*() \x7b",
  "        char* buffer = new char[str.size() + 1];",
  "        std::memcpy(buffer, str.data(), str.size());",
  "        buffer[str.size()] = '\\0';",
  "        deallocate(owner);",
  "        owner = buffer;",
  "        size = str.size();",
  "        return buffer;",
  "    \x7d",
  "    operator const char*() \x7b return static_cast<char*>(*this); \x7d",
  "    operator std::string&() \x7b return str; \x7d",
  "    operator std::string*() \x7b return &str; \x7d",
  "",
  "    // Copies the native value into a caller buffer of `capacity` bytes and",
  "    // records the full length in `size`.",
  "    void assign(char* ptr, size_t capacity) \x7b",
  "        size = str.size();",
  "        if (ptr != nullptr) \x7b",
  "            std::memcpy(ptr, str.data(), size < capacity ? size : capacity);",
  "        \x7d",
  "    \x7d",
  "",
  "    void* owner;",
  "    size_t size;",
  "    std::string str2;",
  "    std::string& str;",
  "\x7d;"]

/-- The class that converts between a pointer with a length and a buffer. -/
def vectorAdapterLines : List String := [
  "template<class T> class VectorAdapter \x7b",
  "public:",
  "    VectorAdapter(const T* ptr, size_t size)",
  "        : owner(nullptr), size(size), vec2(ptr != nullptr ? std::vector<T>(ptr, ptr + size) : std::vector<T>()), vec(vec2) \x7b \x7d",
  "    VectorAdapter(const std::vector<T>& value)",
  "        : owner(nullptr), size(value.size()), vec2(value), vec(vec2) \x7b \x7d",
  "    VectorAdapter(const VectorAdapter&) = delete;",
  "    VectorAdapter& operator=(const VectorAdapter&) = delete;",
  "",
  "    static void deallocate(void* owner) \x7b delete[] static_cast<T*>(owner); \x7d",
  "",
  "    operator T*() \x7b",
  "        T* buffer = new T[vec.size()];",
  "        std::copy(vec.begin(), vec.end(), buffer);",
  "        deallocate(owner);",
  "        owner = buffer;",
  "        size = vec.size();",
  "        return buffer;",
  "    \x7d",
  "    operator const T*() \x7b return static_cast<T*>(*this); \x7d",
  "    operator std::vector<T>&() \x7b return vec; \x7d",
  "    operator std::vector<T>*() \x7b return &vec; \x7d",
  "",
  "    // Copies the native elements into a caller buffer of `capacity` elements",
  "    // and records the full element count in `size`.",
  "    void assign(T* ptr, size_t capacity) \x7b",
  "        size = vec.size();",
  "        if (ptr != nullptr) \x7b",
  "            std::copy(vec.begin(), vec.begin() + (size < capacity ? size : capacity), ptr);",
  "        \x7d",
  "    \x7d",
  "",
  "    void* owner;",
  "    size_t size;",
  "    std::vector<T> vec2;",
  "    std::vector<T>& vec;",
  "\x7d;"]

/-- The definition of the export macro as text. -/
def exportText : String := ofLines exportLines

/-- The definition of a built-in adapter as text. -/
def adapterText : BuiltinAdapter → String
  | .string => ofLines stringAdapterLines
  | .vector => ofLines vectorAdapterLines

/-- The standard headers of every unit. -/
def baseHeaders : List String := ["<cstddef>", "<cstdint>"]

/-- The standard headers that a built-in adapter needs. -/
def adapterHeaders : BuiltinAdapter → List String
  | .string => ["<cstring>", "<string>"]
  | .vector => ["<algorithm>", "<vector>"]

end NativeGlue.Source
