/-!
The IANA time zone database, release 2024a, in a compact line form.

Each line is one record, its fields divided by single spaces:

* `R name from to month day at save letters`: a rule of the rule set `name`,
  in force from year `from` to year `to` (a year, or `max` for no last year).
  The day is a day of the month `N`, the last weekday of the month `lastSun`,
  or the first weekday on or after, or the last on or before, a day
  (`Sun>=8`, `Sat<=30`). `at` is the time of day in seconds, followed by the
  clock it is read on: `w` wall, `s` standard, `u` universal. `save` is the
  saving in seconds and `letters` fill the `%s` of a format (`-` for none).
* `Z name`: a zone; its periods follow in order.
* `P offset rules format until`: a period of the zone before, with its
  standard offset in seconds; `rules` is `-` for no saving, `:N` for a fixed
  saving of `N` seconds, or the name of a rule set. The period ends at the
  optional `year month day time` (day as for rules, time as for `at`); the last
  period has no end.
* `L zone name`: `name` is another name of `zone`.
-/
namespace Cadence.Zone

/-- The records of the database, one per line. -/
def databaseText : String :=
"R d 1916 1916 6 14 82800s 3600 S
R d 1916 1919 10 Sun>=1 82800s 0 -
R d 1917 1917 3 24 82800s 3600 S
R d 1918 1918 3 9 82800s 3600 S
R d 1919 1919 3 1 82800s 3600 S
R d 1920 1920 2 14 82800s 3600 S
R d 1920 1920 10 23 82800s 0 -
R d 1921 1921 3 14 82800s 3600 S
R d 1921 1921 6 21 82800s 0 -
R d 1939 1939 9 11 82800s 3600 S
R d 1939 1939 11 19 3600w 0 -
R d 1944 1945 4 Mon>=1 7200w 3600 S
R d 1944 1944 10 8 7200w 0 -
R d 1945 1945 9 16 3600w 0 -
R d 1971 1971 4 25 82800s 3600 S
R d 1971 1971 9 26 82800s 0 -
R d 1977 1977 5 6 0w 3600 S
R d 1977 1977 10 21 0w 0 -
R d 1978 1978 3 24 3600w 3600 S
R d 1978 1978 9 22 10800w 0 -
R d 1980 1980 4 25 0w 3600 S
R d 1980 1980 10 31 7200w 0 -
R K 1940 1940 7 15 0w 3600 S
R K 1940 1940 10 1 0w 0 -
R K 1941 1941 4 15 0w 3600 S
R K 1941 1941 9 16 0w 0 -
R K 1942 1944 4 1 0w 3600 S
R K 1942 1942 10 27 0w 0 -
R K 1943 1945 11 1 0w 0 -
R K 1945 1945 4 16 0w 3600 S
R K 1957 1957 5 10 0w 3600 S
R K 1957 1958 10 1 0w 0 -
R K 1958 1958 5 1 0w 3600 S
R K 1959 1981 5 1 3600w 3600 S
R K 1959 1965 9 30 10800w 0 -
R K 1966 1994 10 1 10800w 0 -
R K 1982 1982 7 25 3600w 3600 S
R K 1983 1983 7 12 3600w 3600 S
R K 1984 1988 5 1 3600w 3600 S
R K 1989 1989 5 6 3600w 3600 S
R K 1990 1994 5 1 3600w 3600 S
R K 1995 2010 4 lastFri 0s 3600 S
R K 1995 2005 9 lastThu 86400w 0 -
R K 2006 2006 9 21 86400w 0 -
R K 2007 2007 9 Thu>=1 86400w 0 -
R K 2008 2008 8 lastThu 86400w 0 -
R K 2009 2009 8 20 86400w 0 -
R K 2010 2010 8 10 86400w 0 -
R K 2010 2010 9 9 86400w 3600 S
R K 2010 2010 9 lastThu 86400w 0 -
R K 2014 2014 5 15 86400w 3600 S
R K 2014 2014 6 26 86400w 0 -
R K 2014 2014 7 31 86400w 3600 S
R K 2014 2014 9 lastThu 86400w 0 -
R K 2023 max 4 lastFri 0w 3600 S
R K 2023 max 10 lastThu 86400w 0 -
R L 1951 1951 10 14 7200w 3600 S
R L 1952 1952 1 1 0w 0 -
R L 1953 1953 10 9 7200w 3600 S
R L 1954 1954 1 1 0w 0 -
R L 1955 1955 9 30 0w 3600 S
R L 1956 1956 1 1 0w 0 -
R L 1982 1984 4 1 0w 3600 S
R L 1982 1985 10 1 0w 0 -
R L 1985 1985 4 6 0w 3600 S
R L 1986 1986 4 4 0w 3600 S
R L 1986 1986 10 3 0w 0 -
R L 1987 1989 4 1 0w 3600 S
R L 1987 1989 10 1 0w 0 -
R L 1997 1997 4 4 0w 3600 S
R L 1997 1997 10 4 0w 0 -
R L 2013 2013 3 lastFri 3600w 3600 S
R L 2013 2013 10 lastFri 7200w 0 -
R MU 1982 1982 10 10 0w 3600 -
R MU 1983 1983 3 21 0w 0 -
R MU 2008 2008 10 lastSun 7200w 3600 -
R MU 2009 2009 3 lastSun 7200w 0 -
R M 1939 1939 9 12 0w 3600 -
R M 1939 1939 11 19 0w 0 -
R M 1940 1940 2 25 0w 3600 -
R M 1945 1945 11 18 0w 0 -
R M 1950 1950 6 11 0w 3600 -
R M 1950 1950 10 29 0w 0 -
R M 1967 1967 6 3 43200w 3600 -
R M 1967 1967 10 1 0w 0 -
R M 1974 1974 6 24 0w 3600 -
R M 1974 1974 9 1 0w 0 -
R M 1976 1977 5 1 0w 3600 -
R M 1976 1976 8 1 0w 0 -
R M 1977 1977 9 28 0w 0 -
R M 1978 1978 6 1 0w 3600 -
R M 1978 1978 8 4 0w 0 -
R M 2008 2008 6 1 0w 3600 -
R M 2008 2008 9 1 0w 0 -
R M 2009 2009 6 1 0w 3600 -
R M 2009 2009 8 21 0w 0 -
R M 2010 2010 5 2 0w 3600 -
R M 2010 2010 8 8 0w 0 -
R M 2011 2011 4 3 0w 3600 -
R M 2011 2011 7 31 0w 0 -
R M 2012 2013 4 lastSun 7200w 3600 -
R M 2012 2012 7 20 10800w 0 -
R M 2012 2012 8 20 7200w 3600 -
R M 2012 2012 9 30 10800w 0 -
R M 2013 2013 7 7 10800w 0 -
R M 2013 2013 8 10 7200w 3600 -
R M 2013 2017 10 lastSun 10800w 0 -
R M 2014 2018 3 lastSun 7200w 3600 -
R M 2014 2014 6 28 10800w 0 -
R M 2014 2014 8 2 7200w 3600 -
R M 2015 2015 6 14 10800w 0 -
R M 2015 2015 7 19 7200w 3600 -
R M 2016 2016 6 5 10800w 0 -
R M 2016 2016 7 10 7200w 3600 -
R M 2017 2017 5 21 10800w 0 -
R M 2017 2017 7 2 7200w 3600 -
R M 2018 2018 5 13 10800w 0 -
R M 2018 2018 6 17 7200w 3600 -
R M 2019 2019 5 5 10800w 0 -
R M 2019 2019 6 9 7200w 3600 -
R M 2020 2020 4 19 10800w 0 -
R M 2020 2020 5 31 7200w 3600 -
R M 2021 2021 4 11 10800w 0 -
R M 2021 2021 5 16 7200w 3600 -
R M 2022 2022 3 27 10800w 0 -
R M 2022 2022 5 8 7200w 3600 -
R M 2023 2023 3 19 10800w 0 -
R M 2023 2023 4 23 7200w 3600 -
R M 2024 2024 3 10 10800w 0 -
R M 2024 2024 4 14 7200w 3600 -
R M 2025 2025 2 23 10800w 0 -
R M 2025 2025 4 6 7200w 3600 -
R M 2026 2026 2 15 10800w 0 -
R M 2026 2026 3 22 7200w 3600 -
R M 2027 2027 2 7 10800w 0 -
R M 2027 2027 3 14 7200w 3600 -
R M 2028 2028 1 23 10800w 0 -
R M 2028 2028 3 5 7200w 3600 -
R M 2029 2029 1 14 10800w 0 -
R M 2029 2029 2 18 7200w 3600 -
R M 2029 2029 12 30 10800w 0 -
R M 2030 2030 2 10 7200w 3600 -
R M 2030 2030 12 22 10800w 0 -
R M 2031 2031 1 26 7200w 3600 -
R M 2031 2031 12 14 10800w 0 -
R M 2032 2032 1 18 7200w 3600 -
R M 2032 2032 11 28 10800w 0 -
R M 2033 2033 1 9 7200w 3600 -
R M 2033 2033 11 20 10800w 0 -
R M 2033 2033 12 25 7200w 3600 -
R M 2034 2034 11 5 10800w 0 -
R M 2034 2034 12 17 7200w 3600 -
R M 2035 2035 10 28 10800w 0 -
R M 2035 2035 12 9 7200w 3600 -
R M 2036 2036 10 19 10800w 0 -
R M 2036 2036 11 23 7200w 3600 -
R M 2037 2037 10 4 10800w 0 -
R M 2037 2037 11 15 7200w 3600 -
R M 2038 2038 9 26 10800w 0 -
R M 2038 2038 10 31 7200w 3600 -
R M 2039 2039 9 18 10800w 0 -
R M 2039 2039 10 23 7200w 3600 -
R M 2040 2040 9 2 10800w 0 -
R M 2040 2040 10 14 7200w 3600 -
R M 2041 2041 8 25 10800w 0 -
R M 2041 2041 9 29 7200w 3600 -
R M 2042 2042 8 10 10800w 0 -
R M 2042 2042 9 21 7200w 3600 -
R M 2043 2043 8 2 10800w 0 -
R M 2043 2043 9 13 7200w 3600 -
R M 2044 2044 7 24 10800w 0 -
R M 2044 2044 8 28 7200w 3600 -
R M 2045 2045 7 9 10800w 0 -
R M 2045 2045 8 20 7200w 3600 -
R M 2046 2046 7 1 10800w 0 -
R M 2046 2046 8 5 7200w 3600 -
R M 2047 2047 6 23 10800w 0 -
R M 2047 2047 7 28 7200w 3600 -
R M 2048 2048 6 7 10800w 0 -
R M 2048 2048 7 19 7200w 3600 -
R M 2049 2049 5 30 10800w 0 -
R M 2049 2049 7 4 7200w 3600 -
R M 2050 2050 5 15 10800w 0 -
R M 2050 2050 6 26 7200w 3600 -
R M 2051 2051 5 7 10800w 0 -
R M 2051 2051 6 18 7200w 3600 -
R M 2052 2052 4 28 10800w 0 -
R M 2052 2052 6 2 7200w 3600 -
R M 2053 2053 4 13 10800w 0 -
R M 2053 2053 5 25 7200w 3600 -
R M 2054 2054 4 5 10800w 0 -
R M 2054 2054 5 10 7200w 3600 -
R M 2055 2055 3 28 10800w 0 -
R M 2055 2055 5 2 7200w 3600 -
R M 2056 2056 3 12 10800w 0 -
R M 2056 2056 4 23 7200w 3600 -
R M 2057 2057 3 4 10800w 0 -
R M 2057 2057 4 8 7200w 3600 -
R M 2058 2058 2 17 10800w 0 -
R M 2058 2058 3 31 7200w 3600 -
R M 2059 2059 2 9 10800w 0 -
R M 2059 2059 3 23 7200w 3600 -
R M 2060 2060 2 1 10800w 0 -
R M 2060 2060 3 7 7200w 3600 -
R M 2061 2061 1 16 10800w 0 -
R M 2061 2061 2 27 7200w 3600 -
R M 2062 2062 1 8 10800w 0 -
R M 2062 2062 2 12 7200w 3600 -
R M 2062 2062 12 31 10800w 0 -
R M 2063 2063 2 4 7200w 3600 -
R M 2063 2063 12 16 10800w 0 -
R M 2064 2064 1 27 7200w 3600 -
R M 2064 2064 12 7 10800w 0 -
R M 2065 2065 1 11 7200w 3600 -
R M 2065 2065 11 22 10800w 0 -
R M 2066 2066 1 3 7200w 3600 -
R M 2066 2066 11 14 10800w 0 -
R M 2066 2066 12 26 7200w 3600 -
R M 2067 2067 11 6 10800w 0 -
R M 2067 2067 12 11 7200w 3600 -
R M 2068 2068 10 21 10800w 0 -
R M 2068 2068 12 2 7200w 3600 -
R M 2069 2069 10 13 10800w 0 -
R M 2069 2069 11 17 7200w 3600 -
R M 2070 2070 10 5 10800w 0 -
R M 2070 2070 11 9 7200w 3600 -
R M 2071 2071 9 20 10800w 0 -
R M 2071 2071 11 1 7200w 3600 -
R M 2072 2072 9 11 10800w 0 -
R M 2072 2072 10 16 7200w 3600 -
R M 2073 2073 8 27 10800w 0 -
R M 2073 2073 10 8 7200w 3600 -
R M 2074 2074 8 19 10800w 0 -
R M 2074 2074 9 30 7200w 3600 -
R M 2075 2075 8 11 10800w 0 -
R M 2075 2075 9 15 7200w 3600 -
R M 2076 2076 7 26 10800w 0 -
R M 2076 2076 9 6 7200w 3600 -
R M 2077 2077 7 18 10800w 0 -
R M 2077 2077 8 22 7200w 3600 -
R M 2078 2078 7 10 10800w 0 -
R M 2078 2078 8 14 7200w 3600 -
R M 2079 2079 6 25 10800w 0 -
R M 2079 2079 8 6 7200w 3600 -
R M 2080 2080 6 16 10800w 0 -
R M 2080 2080 7 21 7200w 3600 -
R M 2081 2081 6 1 10800w 0 -
R M 2081 2081 7 13 7200w 3600 -
R M 2082 2082 5 24 10800w 0 -
R M 2082 2082 6 28 7200w 3600 -
R M 2083 2083 5 16 10800w 0 -
R M 2083 2083 6 20 7200w 3600 -
R M 2084 2084 4 30 10800w 0 -
R M 2084 2084 6 11 7200w 3600 -
R M 2085 2085 4 22 10800w 0 -
R M 2085 2085 5 27 7200w 3600 -
R M 2086 2086 4 14 10800w 0 -
R M 2086 2086 5 19 7200w 3600 -
R M 2087 2087 3 30 10800w 0 -
R M 2087 2087 5 11 7200w 3600 -
R NA 1994 1994 3 21 0w 0 WAT
R NA 1994 2017 9 Sun>=1 7200w 3600 CAT
R NA 1995 2017 4 Sun>=1 7200w 0 WAT
R SA 1942 1943 9 Sun>=15 7200w 3600 -
R SA 1943 1944 3 Sun>=15 7200w 0 -
R SD 1970 1970 5 1 0w 3600 S
R SD 1970 1985 10 15 0w 0 -
R SD 1971 1971 4 30 0w 3600 S
R SD 1972 1985 4 lastSun 0w 3600 S
R n 1939 1939 4 15 82800s 3600 S
R n 1939 1939 11 18 82800s 0 -
R n 1940 1940 2 25 82800s 3600 S
R n 1941 1941 10 6 0w 0 -
R n 1942 1942 3 9 0w 3600 S
R n 1942 1942 11 2 10800w 0 -
R n 1943 1943 3 29 7200w 3600 S
R n 1943 1943 4 17 7200w 0 -
R n 1943 1943 4 25 7200w 3600 S
R n 1943 1943 10 4 7200w 0 -
R n 1944 1945 4 Mon>=1 7200w 3600 S
R n 1944 1944 10 8 0w 0 -
R n 1945 1945 9 16 0w 0 -
R n 1977 1977 4 30 0s 3600 S
R n 1977 1977 9 24 0s 0 -
R n 1978 1978 5 1 0s 3600 S
R n 1978 1978 10 1 0s 0 -
R n 1988 1988 6 1 0s 3600 S
R n 1988 1990 9 lastSun 0s 0 -
R n 1989 1989 3 26 0s 3600 S
R n 1990 1990 5 1 0s 3600 S
R n 2005 2005 5 1 0s 3600 S
R n 2005 2005 9 30 3600s 0 -
R n 2006 2008 3 lastSun 7200s 3600 S
R n 2006 2008 10 lastSun 7200s 0 -
R Tr 2005 max 3 lastSun 3600u 7200 +02
R Tr 2004 max 10 lastSun 3600u 0 +00
R AM 2011 2011 3 lastSun 7200s 3600 -
R AM 2011 2011 10 lastSun 7200s 0 -
R AZ 1997 2015 3 lastSun 14400w 3600 -
R AZ 1997 2015 10 lastSun 18000w 0 -
R BD 2009 2009 6 19 82800w 3600 -
R BD 2009 2009 12 31 86400w 0 -
R Sh 1919 1919 4 12 86400w 3600 D
R Sh 1919 1919 9 30 86400w 0 S
R Sh 1940 1940 6 1 0w 3600 D
R Sh 1940 1940 10 12 86400w 0 S
R Sh 1941 1941 3 15 0w 3600 D
R Sh 1941 1941 11 1 86400w 0 S
R Sh 1942 1942 1 31 0w 3600 D
R Sh 1945 1945 9 1 86400w 0 S
R Sh 1946 1946 5 15 0w 3600 D
R Sh 1946 1946 9 30 86400w 0 S
R Sh 1947 1947 4 15 0w 3600 D
R Sh 1947 1947 10 31 86400w 0 S
R Sh 1948 1949 5 1 0w 3600 D
R Sh 1948 1949 9 30 86400w 0 S
R CN 1986 1986 5 4 7200w 3600 D
R CN 1986 1991 9 Sun>=11 7200w 0 S
R CN 1987 1991 4 Sun>=11 7200w 3600 D
R HK 1946 1946 4 21 0w 3600 S
R HK 1946 1946 12 1 12600s 0 -
R HK 1947 1947 4 13 12600s 3600 S
R HK 1947 1947 11 30 12600s 0 -
R HK 1948 1948 5 2 12600s 3600 S
R HK 1948 1952 10 Sun>=28 12600s 0 -
R HK 1949 1953 4 Sun>=1 12600w 3600 S
R HK 1953 1964 10 Sun>=31 12600w 0 -
R HK 1954 1964 3 Sun>=18 12600w 3600 S
R HK 1965 1976 4 Sun>=16 12600w 3600 S
R HK 1965 1976 10 Sun>=16 12600w 0 -
R HK 1973 1973 12 30 12600w 3600 S
R HK 1979 1979 5 13 12600w 3600 S
R HK 1979 1979 10 21 12600w 0 -
R f 1946 1946 5 15 0w 3600 D
R f 1946 1946 10 1 0w 0 S
R f 1947 1947 4 15 0w 3600 D
R f 1947 1947 11 1 0w 0 S
R f 1948 1951 5 1 0w 3600 D
R f 1948 1951 10 1 0w 0 S
R f 1952 1952 3 1 0w 3600 D
R f 1952 1954 11 1 0w 0 S
R f 1953 1959 4 1 0w 3600 D
R f 1955 1961 10 1 0w 0 S
R f 1960 1961 6 1 0w 3600 D
R f 1974 1975 4 1 0w 3600 D
R f 1974 1975 10 1 0w 0 S
R f 1979 1979 7 1 0w 3600 D
R f 1979 1979 10 1 0w 0 S
R _ 1942 1943 4 30 82800w 3600 -
R _ 1942 1942 11 17 82800w 0 -
R _ 1943 1943 9 30 82800w 0 S
R _ 1946 1946 4 30 82800s 3600 D
R _ 1946 1946 9 30 82800s 0 S
R _ 1947 1947 4 19 82800s 3600 D
R _ 1947 1947 11 30 82800s 0 S
R _ 1948 1948 5 2 82800s 3600 D
R _ 1948 1948 10 31 82800s 0 S
R _ 1949 1950 4 Sat>=1 82800s 3600 D
R _ 1949 1950 10 lastSat 82800s 0 S
R _ 1951 1951 3 31 82800s 3600 D
R _ 1951 1951 10 28 82800s 0 S
R _ 1952 1953 4 Sat>=1 82800s 3600 D
R _ 1952 1952 11 1 82800s 0 S
R _ 1953 1954 10 lastSat 82800s 0 S
R _ 1954 1956 3 Sat>=17 82800s 3600 D
R _ 1955 1955 11 5 82800s 0 S
R _ 1956 1964 11 Sun>=1 12600w 0 S
R _ 1957 1964 3 Sun>=18 12600w 3600 D
R _ 1965 1973 4 Sun>=16 12600w 3600 D
R _ 1965 1966 10 Sun>=16 9000w 0 S
R _ 1967 1976 10 Sun>=16 12600w 0 S
R _ 1973 1973 12 30 12600w 3600 D
R _ 1975 1976 4 Sun>=16 12600w 3600 D
R _ 1979 1979 5 13 12600w 3600 D
R _ 1979 1979 10 Sun>=16 12600w 0 S
R CY 1975 1975 4 13 0w 3600 S
R CY 1975 1975 10 12 0w 0 -
R CY 1976 1976 5 15 0w 3600 S
R CY 1976 1976 10 11 0w 0 -
R CY 1977 1980 4 Sun>=1 0w 3600 S
R CY 1977 1977 9 25 0w 0 -
R CY 1978 1978 10 2 0w 0 -
R CY 1979 1997 9 lastSun 0w 0 -
R CY 1981 1998 3 lastSun 0w 3600 S
R i 1910 1910 1 1 0w 0 -
R i 1977 1977 3 21 82800w 3600 -
R i 1977 1977 10 20 86400w 0 -
R i 1978 1978 3 24 86400w 3600 -
R i 1978 1978 8 5 3600w 0 -
R i 1979 1979 5 26 86400w 3600 -
R i 1979 1979 9 18 86400w 0 -
R i 1980 1980 3 20 86400w 3600 -
R i 1980 1980 9 22 86400w 0 -
R i 1991 1991 5 2 86400w 3600 -
R i 1992 1995 3 21 86400w 3600 -
R i 1991 1995 9 21 86400w 0 -
R i 1996 1996 3 20 86400w 3600 -
R i 1996 1996 9 20 86400w 0 -
R i 1997 1999 3 21 86400w 3600 -
R i 1997 1999 9 21 86400w 0 -
R i 2000 2000 3 20 86400w 3600 -
R i 2000 2000 9 20 86400w 0 -
R i 2001 2003 3 21 86400w 3600 -
R i 2001 2003 9 21 86400w 0 -
R i 2004 2004 3 20 86400w 3600 -
R i 2004 2004 9 20 86400w 0 -
R i 2005 2005 3 21 86400w 3600 -
R i 2005 2005 9 21 86400w 0 -
R i 2008 2008 3 20 86400w 3600 -
R i 2008 2008 9 20 86400w 0 -
R i 2009 2011 3 21 86400w 3600 -
R i 2009 2011 9 21 86400w 0 -
R i 2012 2012 3 20 86400w 3600 -
R i 2012 2012 9 20 86400w 0 -
R i 2013 2015 3 21 86400w 3600 -
R i 2013 2015 9 21 86400w 0 -
R i 2016 2016 3 20 86400w 3600 -
R i 2016 2016 9 20 86400w 0 -
R i 2017 2019 3 21 86400w 3600 -
R i 2017 2019 9 21 86400w 0 -
R i 2020 2020 3 20 86400w 3600 -
R i 2020 2020 9 20 86400w 0 -
R i 2021 2022 3 21 86400w 3600 -
R i 2021 2022 9 21 86400w 0 -
R IQ 1982 1982 5 1 0w 3600 -
R IQ 1982 1984 10 1 0w 0 -
R IQ 1983 1983 3 31 0w 3600 -
R IQ 1984 1985 4 1 0w 3600 -
R IQ 1985 1990 9 lastSun 3600s 0 -
R IQ 1986 1990 3 lastSun 3600s 3600 -
R IQ 1991 2007 4 1 10800s 3600 -
R IQ 1991 2007 10 1 10800s 0 -
R Z 1940 1940 5 31 86400u 3600 D
R Z 1940 1940 9 30 86400u 0 S
R Z 1940 1940 11 16 86400u 3600 D
R Z 1942 1946 10 31 86400u 0 S
R Z 1943 1944 3 31 86400u 3600 D
R Z 1945 1946 4 15 86400u 3600 D
R Z 1948 1948 5 22 86400u 7200 DD
R Z 1948 1948 8 31 86400u 3600 D
R Z 1948 1949 10 31 86400u 0 S
R Z 1949 1949 4 30 86400u 3600 D
R Z 1950 1950 4 15 86400u 3600 D
R Z 1950 1950 9 14 86400u 0 S
R Z 1951 1951 3 31 86400u 3600 D
R Z 1951 1951 11 10 86400u 0 S
R Z 1952 1952 4 19 86400u 3600 D
R Z 1952 1952 10 18 86400u 0 S
R Z 1953 1953 4 11 86400u 3600 D
R Z 1953 1953 9 12 86400u 0 S
R Z 1954 1954 6 12 86400u 3600 D
R Z 1954 1954 9 11 86400u 0 S
R Z 1955 1955 6 11 86400u 3600 D
R Z 1955 1955 9 10 86400u 0 S
R Z 1956 1956 6 2 86400u 3600 D
R Z 1956 1956 9 29 86400u 0 S
R Z 1957 1957 4 27 86400u 3600 D
R Z 1957 1957 9 21 86400u 0 S
R Z 1974 1974 7 6 86400w 3600 D
R Z 1974 1974 10 12 86400w 0 S
R Z 1975 1975 4 19 86400w 3600 D
R Z 1975 1975 8 30 86400w 0 S
R Z 1980 1980 8 2 86400s 3600 D
R Z 1980 1980 9 13 86400s 0 S
R Z 1984 1984 5 5 86400s 3600 D
R Z 1984 1984 8 25 86400s 0 S
R Z 1985 1985 4 13 86400w 3600 D
R Z 1985 1985 8 31 86400w 0 S
R Z 1986 1986 5 17 86400w 3600 D
R Z 1986 1986 9 6 86400w 0 S
R Z 1987 1987 4 14 86400w 3600 D
R Z 1987 1987 9 12 86400w 0 S
R Z 1988 1988 4 9 86400w 3600 D
R Z 1988 1988 9 3 86400w 0 S
R Z 1989 1989 4 29 86400w 3600 D
R Z 1989 1989 9 2 86400w 0 S
R Z 1990 1990 3 24 86400w 3600 D
R Z 1990 1990 8 25 86400w 0 S
R Z 1991 1991 3 23 86400w 3600 D
R Z 1991 1991 8 31 86400w 0 S
R Z 1992 1992 3 28 86400w 3600 D
R Z 1992 1992 9 5 86400w 0 S
R Z 1993 1993 4 2 0w 3600 D
R Z 1993 1993 9 5 0w 0 S
R Z 1994 1994 4 1 0w 3600 D
R Z 1994 1994 8 28 0w 0 S
R Z 1995 1995 3 31 0w 3600 D
R Z 1995 1995 9 3 0w 0 S
R Z 1996 1996 3 14 86400w 3600 D
R Z 1996 1996 9 15 86400w 0 S
R Z 1997 1997 3 20 86400w 3600 D
R Z 1997 1997 9 13 86400w 0 S
R Z 1998 1998 3 20 0w 3600 D
R Z 1998 1998 9 6 0w 0 S
R Z 1999 1999 4 2 7200w 3600 D
R Z 1999 1999 9 3 7200w 0 S
R Z 2000 2000 4 14 7200w 3600 D
R Z 2000 2000 10 6 3600w 0 S
R Z 2001 2001 4 9 3600w 3600 D
R Z 2001 2001 9 24 3600w 0 S
R Z 2002 2002 3 29 3600w 3600 D
R Z 2002 2002 10 7 3600w 0 S
R Z 2003 2003 3 28 3600w 3600 D
R Z 2003 2003 10 3 3600w 0 S
R Z 2004 2004 4 7 3600w 3600 D
R Z 2004 2004 9 22 3600w 0 S
R Z 2005 2012 4 Fri<=1 7200w 3600 D
R Z 2005 2005 10 9 7200w 0 S
R Z 2006 2006 10 1 7200w 0 S
R Z 2007 2007 9 16 7200w 0 S
R Z 2008 2008 10 5 7200w 0 S
R Z 2009 2009 9 27 7200w 0 S
R Z 2010 2010 9 12 7200w 0 S
R Z 2011 2011 10 2 7200w 0 S
R Z 2012 2012 9 23 7200w 0 S
R Z 2013 max 3 Fri>=23 7200w 3600 D
R Z 2013 max 10 lastSun 7200w 0 S
R JP 1948 1948 5 Sat>=1 86400w 3600 D
R JP 1948 1951 9 Sun>=9 3600w 0 S
R JP 1949 1949 4 Sat>=1 86400w 3600 D
R JP 1950 1951 5 Sat>=1 86400w 3600 D
R J 1973 1973 6 6 0w 3600 S
R J 1973 1975 10 1 0w 0 -
R J 1974 1977 5 1 0w 3600 S
R J 1976 1976 11 1 0w 0 -
R J 1977 1977 10 1 0w 0 -
R J 1978 1978 4 30 0w 3600 S
R J 1978 1978 9 30 0w 0 -
R J 1985 1985 4 1 0w 3600 S
R J 1985 1985 10 1 0w 0 -
R J 1986 1988 4 Fri>=1 0w 3600 S
R J 1986 1990 10 Fri>=1 0w 0 -
R J 1989 1989 5 8 0w 3600 S
R J 1990 1990 4 27 0w 3600 S
R J 1991 1991 4 17 0w 3600 S
R J 1991 1991 9 27 0w 0 -
R J 1992 1992 4 10 0w 3600 S
R J 1992 1993 10 Fri>=1 0w 0 -
R J 1993 1998 4 Fri>=1 0w 3600 S
R J 1994 1994 9 Fri>=15 0w 0 -
R J 1995 1998 9 Fri>=15 0s 0 -
R J 1999 1999 7 1 0s 3600 S
R J 1999 2002 9 lastFri 0s 0 -
R J 2000 2001 3 lastThu 0s 3600 S
R J 2002 2012 3 lastThu 86400w 3600 S
R J 2003 2003 10 24 0s 0 -
R J 2004 2004 10 15 0s 0 -
R J 2005 2005 9 lastFri 0s 0 -
R J 2006 2011 10 lastFri 0s 0 -
R J 2013 2013 12 20 0w 0 -
R J 2014 2021 3 lastThu 86400w 3600 S
R J 2014 2022 10 lastFri 0s 0 -
R J 2022 2022 2 lastThu 86400w 3600 S
R KG 1992 1996 4 Sun>=7 0s 3600 -
R KG 1992 1996 9 lastSun 0w 0 -
R KG 1997 2005 3 lastSun 9000w 3600 -
R KG 1997 2004 10 lastSun 9000w 0 -
R KR 1948 1948 6 1 0w 3600 D
R KR 1948 1948 9 12 86400w 0 S
R KR 1949 1949 4 3 0w 3600 D
R KR 1949 1951 9 Sat>=7 86400w 0 S
R KR 1950 1950 4 1 0w 3600 D
R KR 1951 1951 5 6 0w 3600 D
R KR 1955 1955 5 5 0w 3600 D
R KR 1955 1955 9 8 86400w 0 S
R KR 1956 1956 5 20 0w 3600 D
R KR 1956 1956 9 29 86400w 0 S
R KR 1957 1960 5 Sun>=1 0w 3600 D
R KR 1957 1960 9 Sat>=17 86400w 0 S
R KR 1987 1988 5 Sun>=8 7200w 3600 D
R KR 1987 1988 10 Sun>=8 10800w 0 S
R l 1920 1920 3 28 0w 3600 S
R l 1920 1920 10 25 0w 0 -
R l 1921 1921 4 3 0w 3600 S
R l 1921 1921 10 3 0w 0 -
R l 1922 1922 3 26 0w 3600 S
R l 1922 1922 10 8 0w 0 -
R l 1923 1923 4 22 0w 3600 S
R l 1923 1923 9 16 0w 0 -
R l 1957 1961 5 1 0w 3600 S
R l 1957 1961 10 1 0w 0 -
R l 1972 1972 6 22 0w 3600 S
R l 1972 1977 10 1 0w 0 -
R l 1973 1977 5 1 0w 3600 S
R l 1978 1978 4 30 0w 3600 S
R l 1978 1978 9 30 0w 0 -
R l 1984 1987 5 1 0w 3600 S
R l 1984 1991 10 16 0w 0 -
R l 1988 1988 6 1 0w 3600 S
R l 1989 1989 5 10 0w 3600 S
R l 1990 1992 5 1 0w 3600 S
R l 1992 1992 10 4 0w 0 -
R l 1993 max 3 lastSun 0w 3600 S
R l 1993 1998 9 lastSun 0w 0 -
R l 1999 max 10 lastSun 0w 0 -
R NB 1935 1941 9 14 0w 1200 -
R NB 1935 1941 12 14 0w 0 -
R X 1983 1984 4 1 0w 3600 -
R X 1983 1983 10 1 0w 0 -
R X 1985 1998 3 lastSun 0w 3600 -
R X 1984 1998 9 lastSun 0w 0 -
R X 2001 2001 4 lastSat 7200w 3600 -
R X 2001 2006 9 lastSat 7200w 0 -
R X 2002 2006 3 lastSat 7200w 3600 -
R X 2015 2016 3 lastSat 7200w 3600 -
R X 2015 2016 9 lastSat 0w 0 -
R PK 2002 2002 4 Sun>=2 0w 3600 S
R PK 2002 2002 10 Sun>=2 0w 0 -
R PK 2008 2008 6 1 0w 3600 S
R PK 2008 2009 11 1 0w 0 -
R PK 2009 2009 4 15 0w 3600 S
R P 1999 2005 4 Fri>=15 0w 3600 S
R P 1999 2003 10 Fri>=15 0w 0 -
R P 2004 2004 10 1 3600w 0 -
R P 2005 2005 10 4 7200w 0 -
R P 2006 2007 4 1 0w 3600 S
R P 2006 2006 9 22 0w 0 -
R P 2007 2007 9 13 7200w 0 -
R P 2008 2009 3 lastFri 0w 3600 S
R P 2008 2008 9 1 0w 0 -
R P 2009 2009 9 4 3600w 0 -
R P 2010 2010 3 26 0w 3600 S
R P 2010 2010 8 11 0w 0 -
R P 2011 2011 4 1 60w 3600 S
R P 2011 2011 8 1 0w 0 -
R P 2011 2011 8 30 0w 3600 S
R P 2011 2011 9 30 0w 0 -
R P 2012 2014 3 lastThu 86400w 3600 S
R P 2012 2012 9 21 3600w 0 -
R P 2013 2013 9 27 0w 0 -
R P 2014 2014 10 24 0w 0 -
R P 2015 2015 3 28 0w 3600 S
R P 2015 2015 10 23 3600w 0 -
R P 2016 2018 3 Sat<=30 3600w 3600 S
R P 2016 2018 10 Sat<=30 3600w 0 -
R P 2019 2019 3 29 0w 3600 S
R P 2019 2019 10 Sat<=30 0w 0 -
R P 2020 2021 3 Sat<=30 0w 3600 S
R P 2020 2020 10 24 3600w 0 -
R P 2021 2021 10 29 3600w 0 -
R P 2022 2022 3 27 0w 3600 S
R P 2022 2035 10 Sat<=30 7200w 0 -
R P 2023 2023 4 29 7200w 3600 S
R P 2024 2024 4 20 7200w 3600 S
R P 2025 2025 4 12 7200w 3600 S
R P 2026 2054 3 Sat<=30 7200w 3600 S
R P 2036 2036 10 18 7200w 0 -
R P 2037 2037 10 10 7200w 0 -
R P 2038 2038 9 25 7200w 0 -
R P 2039 2039 9 17 7200w 0 -
R P 2040 2040 9 1 7200w 0 -
R P 2040 2040 10 20 7200w 3600 S
R P 2040 2067 10 Sat<=30 7200w 0 -
R P 2041 2041 8 24 7200w 0 -
R P 2041 2041 10 5 7200w 3600 S
R P 2042 2042 8 16 7200w 0 -
R P 2042 2042 9 27 7200w 3600 S
R P 2043 2043 8 1 7200w 0 -
R P 2043 2043 9 19 7200w 3600 S
R P 2044 2044 7 23 7200w 0 -
R P 2044 2044 9 3 7200w 3600 S
R P 2045 2045 7 15 7200w 0 -
R P 2045 2045 8 26 7200w 3600 S
R P 2046 2046 6 30 7200w 0 -
R P 2046 2046 8 18 7200w 3600 S
R P 2047 2047 6 22 7200w 0 -
R P 2047 2047 8 3 7200w 3600 S
R P 2048 2048 6 6 7200w 0 -
R P 2048 2048 7 25 7200w 3600 S
R P 2049 2049 5 29 7200w 0 -
R P 2049 2049 7 10 7200w 3600 S
R P 2050 2050 5 21 7200w 0 -
R P 2050 2050 7 2 7200w 3600 S
R P 2051 2051 5 6 7200w 0 -
R P 2051 2051 6 24 7200w 3600 S
R P 2052 2052 4 27 7200w 0 -
R P 2052 2052 6 8 7200w 3600 S
R P 2053 2053 4 12 7200w 0 -
R P 2053 2053 5 31 7200w 3600 S
R P 2054 2054 4 4 7200w 0 -
R P 2054 2054 5 23 7200w 3600 S
R P 2055 2055 5 8 7200w 3600 S
R P 2056 2056 4 29 7200w 3600 S
R P 2057 2057 4 14 7200w 3600 S
R P 2058 2058 4 6 7200w 3600 S
R P 2059 max 3 Sat<=30 7200w 3600 S
R P 2068 2068 10 20 7200w 0 -
R P 2069 2069 10 12 7200w 0 -
R P 2070 2070 10 4 7200w 0 -
R P 2071 2071 9 19 7200w 0 -
R P 2072 2072 9 10 7200w 0 -
R P 2072 2072 10 22 7200w 3600 S
R P 2072 max 10 Sat<=30 7200w 0 -
R P 2073 2073 9 2 7200w 0 -
R P 2073 2073 10 14 7200w 3600 S
R P 2074 2074 8 18 7200w 0 -
R P 2074 2074 10 6 7200w 3600 S
R P 2075 2075 8 10 7200w 0 -
R P 2075 2075 9 21 7200w 3600 S
R P 2076 2076 7 25 7200w 0 -
R P 2076 2076 9 12 7200w 3600 S
R P 2077 2077 7 17 7200w 0 -
R P 2077 2077 9 4 7200w 3600 S
R P 2078 2078 7 9 7200w 0 -
R P 2078 2078 8 20 7200w 3600 S
R P 2079 2079 6 24 7200w 0 -
R P 2079 2079 8 12 7200w 3600 S
R P 2080 2080 6 15 7200w 0 -
R P 2080 2080 7 27 7200w 3600 S
R P 2081 2081 6 7 7200w 0 -
R P 2081 2081 7 19 7200w 3600 S
R P 2082 2082 5 23 7200w 0 -
R P 2082 2082 7 11 7200w 3600 S
R P 2083 2083 5 15 7200w 0 -
R P 2083 2083 6 26 7200w 3600 S
R P 2084 2084 4 29 7200w 0 -
R P 2084 2084 6 17 7200w 3600 S
R P 2085 2085 4 21 7200w 0 -
R P 2085 2085 6 9 7200w 3600 S
R P 2086 2086 4 13 7200w 0 -
R P 2086 2086 5 25 7200w 3600 S
R S 1920 1923 4 Sun>=15 7200w 3600 S
R S 1920 1923 10 Sun>=1 7200w 0 -
R S 1962 1962 4 29 7200w 3600 S
R S 1962 1962 10 1 7200w 0 -
R S 1963 1965 5 1 7200w 3600 S
R S 1963 1963 9 30 7200w 0 -
R S 1964 1964 10 1 7200w 0 -
R S 1965 1965 9 30 7200w 0 -
R S 1966 1966 4 24 7200w 3600 S
R S 1966 1976 10 1 7200w 0 -
R S 1967 1978 5 1 7200w 3600 S
R S 1977 1978 9 1 7200w 0 -
R S 1983 1984 4 9 7200w 3600 S
R S 1983 1984 10 1 7200w 0 -
R S 1986 1986 2 16 7200w 3600 S
R S 1986 1986 10 9 7200w 0 -
R S 1987 1987 3 1 7200w 3600 S
R S 1987 1988 10 31 7200w 0 -
R S 1988 1988 3 15 7200w 3600 S
R S 1989 1989 3 31 7200w 3600 S
R S 1989 1989 10 1 7200w 0 -
R S 1990 1990 4 1 7200w 3600 S
R S 1990 1990 9 30 7200w 0 -
R S 1991 1991 4 1 0w 3600 S
R S 1991 1992 10 1 0w 0 -
R S 1992 1992 4 8 0w 3600 S
R S 1993 1993 3 26 0w 3600 S
R S 1993 1993 9 25 0w 0 -
R S 1994 1996 4 1 0w 3600 S
R S 1994 2005 10 1 0w 0 -
R S 1997 1998 3 lastMon 0w 3600 S
R S 1999 2006 4 1 0w 3600 S
R S 2006 2006 9 22 0w 0 -
R S 2007 2007 3 lastFri 0w 3600 S
R S 2007 2007 11 Fri>=1 0w 0 -
R S 2008 2008 4 Fri>=1 0w 3600 S
R S 2008 2008 11 1 0w 0 -
R S 2009 2009 3 lastFri 0w 3600 S
R S 2010 2011 4 Fri>=1 0w 3600 S
R S 2012 2022 3 lastFri 0w 3600 S
R S 2009 2022 10 lastFri 0w 0 -
R AU 1917 1917 1 1 7200s 3600 D
R AU 1917 1917 3 lastSun 7200s 0 S
R AU 1942 1942 1 1 7200s 3600 D
R AU 1942 1942 3 lastSun 7200s 0 S
R AU 1942 1942 9 27 7200s 3600 D
R AU 1943 1944 3 lastSun 7200s 0 S
R AU 1943 1943 10 3 7200s 3600 D
R AW 1974 1974 10 lastSun 7200s 3600 D
R AW 1975 1975 3 Sun>=1 7200s 0 S
R AW 1983 1983 10 lastSun 7200s 3600 D
R AW 1984 1984 3 Sun>=1 7200s 0 S
R AW 1991 1991 11 17 7200s 3600 D
R AW 1992 1992 3 Sun>=1 7200s 0 S
R AW 2006 2006 12 3 7200s 3600 D
R AW 2007 2009 3 lastSun 7200s 0 S
R AW 2007 2008 10 lastSun 7200s 3600 D
R AQ 1971 1971 10 lastSun 7200s 3600 D
R AQ 1972 1972 2 lastSun 7200s 0 S
R AQ 1989 1991 10 lastSun 7200s 3600 D
R AQ 1990 1992 3 Sun>=1 7200s 0 S
R Ho 1992 1993 10 lastSun 7200s 3600 D
R Ho 1993 1994 3 Sun>=1 7200s 0 S
R AS 1971 1985 10 lastSun 7200s 3600 D
R AS 1986 1986 10 19 7200s 3600 D
R AS 1987 2007 10 lastSun 7200s 3600 D
R AS 1972 1972 2 27 7200s 0 S
R AS 1973 1985 3 Sun>=1 7200s 0 S
R AS 1986 1990 3 Sun>=15 7200s 0 S
R AS 1991 1991 3 3 7200s 0 S
R AS 1992 1992 3 22 7200s 0 S
R AS 1993 1993 3 7 7200s 0 S
R AS 1994 1994 3 20 7200s 0 S
R AS 1995 2005 3 lastSun 7200s 0 S
R AS 2006 2006 4 2 7200s 0 S
R AS 2007 2007 3 lastSun 7200s 0 S
R AS 2008 max 4 Sun>=1 7200s 0 S
R AS 2008 max 10 Sun>=1 7200s 3600 D
R AT 1916 1916 10 Sun>=1 7200s 3600 D
R AT 1917 1917 3 lastSun 7200s 0 S
R AT 1917 1918 10 Sun>=22 7200s 3600 D
R AT 1918 1919 3 Sun>=1 7200s 0 S
R AT 1967 1967 10 Sun>=1 7200s 3600 D
R AT 1968 1968 3 Sun>=29 7200s 0 S
R AT 1968 1985 10 lastSun 7200s 3600 D
R AT 1969 1971 3 Sun>=8 7200s 0 S
R AT 1972 1972 2 lastSun 7200s 0 S
R AT 1973 1981 3 Sun>=1 7200s 0 S
R AT 1982 1983 3 lastSun 7200s 0 S
R AT 1984 1986 3 Sun>=1 7200s 0 S
R AT 1986 1986 10 Sun>=15 7200s 3600 D
R AT 1987 1990 3 Sun>=15 7200s 0 S
R AT 1987 1987 10 Sun>=22 7200s 3600 D
R AT 1988 1990 10 lastSun 7200s 3600 D
R AT 1991 1999 10 Sun>=1 7200s 3600 D
R AT 1991 2005 3 lastSun 7200s 0 S
R AT 2000 2000 8 lastSun 7200s 3600 D
R AT 2001 max 10 Sun>=1 7200s 3600 D
R AT 2006 2006 4 Sun>=1 7200s 0 S
R AT 2007 2007 3 lastSun 7200s 0 S
R AT 2008 max 4 Sun>=1 7200s 0 S
R AV 1971 1985 10 lastSun 7200s 3600 D
R AV 1972 1972 2 lastSun 7200s 0 S
R AV 1973 1985 3 Sun>=1 7200s 0 S
R AV 1986 1990 3 Sun>=15 7200s 0 S
R AV 1986 1987 10 Sun>=15 7200s 3600 D
R AV 1988 1999 10 lastSun 7200s 3600 D
R AV 1991 1994 3 Sun>=1 7200s 0 S
R AV 1995 2005 3 lastSun 7200s 0 S
R AV 2000 2000 8 lastSun 7200s 3600 D
R AV 2001 2007 10 lastSun 7200s 3600 D
R AV 2006 2006 4 Sun>=1 7200s 0 S
R AV 2007 2007 3 lastSun 7200s 0 S
R AV 2008 max 4 Sun>=1 7200s 0 S
R AV 2008 max 10 Sun>=1 7200s 3600 D
R AN 1971 1985 10 lastSun 7200s 3600 D
R AN 1972 1972 2 27 7200s 0 S
R AN 1973 1981 3 Sun>=1 7200s 0 S
R AN 1982 1982 4 Sun>=1 7200s 0 S
R AN 1983 1985 3 Sun>=1 7200s 0 S
R AN 1986 1989 3 Sun>=15 7200s 0 S
R AN 1986 1986 10 19 7200s 3600 D
R AN 1987 1999 10 lastSun 7200s 3600 D
R AN 1990 1995 3 Sun>=1 7200s 0 S
R AN 1996 2005 3 lastSun 7200s 0 S
R AN 2000 2000 8 lastSun 7200s 3600 D
R AN 2001 2007 10 lastSun 7200s 3600 D
R AN 2006 2006 4 Sun>=1 7200s 0 S
R AN 2007 2007 3 lastSun 7200s 0 S
R AN 2008 max 4 Sun>=1 7200s 0 S
R AN 2008 max 10 Sun>=1 7200s 3600 D
R LH 1981 1984 10 lastSun 7200w 3600 -
R LH 1982 1985 3 Sun>=1 7200w 0 -
R LH 1985 1985 10 lastSun 7200w 1800 -
R LH 1986 1989 3 Sun>=15 7200w 0 -
R LH 1986 1986 10 19 7200w 1800 -
R LH 1987 1999 10 lastSun 7200w 1800 -
R LH 1990 1995 3 Sun>=1 7200w 0 -
R LH 1996 2005 3 lastSun 7200w 0 -
R LH 2000 2000 8 lastSun 7200w 1800 -
R LH 2001 2007 10 lastSun 7200w 1800 -
R LH 2006 2006 4 Sun>=1 7200w 0 -
R LH 2007 2007 3 lastSun 7200w 0 -
R LH 2008 max 4 Sun>=1 7200w 0 -
R LH 2008 max 10 Sun>=1 7200w 1800 -
R FJ 1998 1999 11 Sun>=1 7200w 3600 -
R FJ 1999 2000 2 lastSun 10800w 0 -
R FJ 2009 2009 11 29 7200w 3600 -
R FJ 2010 2010 3 lastSun 10800w 0 -
R FJ 2010 2013 10 Sun>=21 7200w 3600 -
R FJ 2011 2011 3 Sun>=1 10800w 0 -
R FJ 2012 2013 1 Sun>=18 10800w 0 -
R FJ 2014 2014 1 Sun>=18 7200w 0 -
R FJ 2014 2018 11 Sun>=1 7200w 3600 -
R FJ 2015 2021 1 Sun>=12 10800w 0 -
R FJ 2019 2019 11 Sun>=8 7200w 3600 -
R FJ 2020 2020 12 20 7200w 3600 -
R Gu 1959 1959 6 27 7200w 3600 D
R Gu 1961 1961 1 29 7200w 0 S
R Gu 1967 1967 9 1 7200w 3600 D
R Gu 1969 1969 1 26 60w 0 S
R Gu 1969 1969 6 22 7200w 3600 D
R Gu 1969 1969 8 31 7200w 0 S
R Gu 1970 1971 4 lastSun 7200w 3600 D
R Gu 1970 1971 9 Sun>=1 7200w 0 S
R Gu 1973 1973 12 16 7200w 3600 D
R Gu 1974 1974 2 24 7200w 0 S
R Gu 1976 1976 5 26 7200w 3600 D
R Gu 1976 1976 8 22 7260w 0 S
R Gu 1977 1977 4 24 7200w 3600 D
R Gu 1977 1977 8 28 7200w 0 S
R NC 1977 1978 12 Sun>=1 0w 3600 -
R NC 1978 1979 2 27 0w 0 -
R NC 1996 1996 12 1 7200s 3600 -
R NC 1997 1997 3 2 7200s 0 -
R NZ 1927 1927 11 6 7200w 3600 S
R NZ 1928 1928 3 4 7200w 0 M
R NZ 1928 1933 10 Sun>=8 7200w 1800 S
R NZ 1929 1933 3 Sun>=15 7200w 0 M
R NZ 1934 1940 4 lastSun 7200w 0 M
R NZ 1934 1940 9 lastSun 7200w 1800 S
R NZ 1946 1946 1 1 0w 0 S
R NZ 1974 1974 11 Sun>=1 7200s 3600 D
R k 1974 1974 11 Sun>=1 9900s 3600 -
R NZ 1975 1975 2 lastSun 7200s 0 S
R k 1975 1975 2 lastSun 9900s 0 -
R NZ 1975 1988 10 lastSun 7200s 3600 D
R k 1975 1988 10 lastSun 9900s 3600 -
R NZ 1976 1989 3 Sun>=1 7200s 0 S
R k 1976 1989 3 Sun>=1 9900s 0 -
R NZ 1989 1989 10 Sun>=8 7200s 3600 D
R k 1989 1989 10 Sun>=8 9900s 3600 -
R NZ 1990 2006 10 Sun>=1 7200s 3600 D
R k 1990 2006 10 Sun>=1 9900s 3600 -
R NZ 1990 2007 3 Sun>=15 7200s 0 S
R k 1990 2007 3 Sun>=15 9900s 0 -
R NZ 2007 max 9 lastSun 7200s 3600 D
R k 2007 max 9 lastSun 9900s 3600 -
R NZ 2008 max 4 Sun>=1 7200s 0 S
R k 2008 max 4 Sun>=1 9900s 0 -
R CK 1978 1978 11 12 0w 1800 -
R CK 1979 1991 3 Sun>=1 0w 0 -
R CK 1979 1990 10 lastSun 0w 1800 -
R WS 2010 2010 9 lastSun 0w 3600 -
R WS 2011 2011 4 Sat>=1 14400w 0 -
R WS 2011 2011 9 lastSat 10800w 3600 -
R WS 2012 2021 4 Sun>=1 14400w 0 -
R WS 2012 2020 9 lastSun 10800w 3600 -
R TO 1999 1999 10 7 7200s 3600 -
R TO 2000 2000 3 19 7200s 0 -
R TO 2000 2001 11 Sun>=1 7200w 3600 -
R TO 2001 2002 1 lastSun 7200w 0 -
R TO 2016 2016 11 Sun>=1 7200w 3600 -
R TO 2017 2017 1 Sun>=15 10800w 0 -
R VU 1973 1973 12 22 43200u 3600 -
R VU 1974 1974 3 30 43200u 0 -
R VU 1983 1991 9 Sat>=22 86400w 3600 -
R VU 1984 1991 3 Sat>=22 86400w 0 -
R VU 1992 1993 1 Sat>=22 86400w 0 -
R VU 1992 1992 10 Sat>=22 86400w 3600 -
R G 1916 1916 5 21 7200s 3600 BST
R G 1916 1916 10 1 7200s 0 GMT
R G 1917 1917 4 8 7200s 3600 BST
R G 1917 1917 9 17 7200s 0 GMT
R G 1918 1918 3 24 7200s 3600 BST
R G 1918 1918 9 30 7200s 0 GMT
R G 1919 1919 3 30 7200s 3600 BST
R G 1919 1919 9 29 7200s 0 GMT
R G 1920 1920 3 28 7200s 3600 BST
R G 1920 1920 10 25 7200s 0 GMT
R G 1921 1921 4 3 7200s 3600 BST
R G 1921 1921 10 3 7200s 0 GMT
R G 1922 1922 3 26 7200s 3600 BST
R G 1922 1922 10 8 7200s 0 GMT
R G 1923 1923 4 Sun>=16 7200s 3600 BST
R G 1923 1924 9 Sun>=16 7200s 0 GMT
R G 1924 1924 4 Sun>=9 7200s 3600 BST
R G 1925 1926 4 Sun>=16 7200s 3600 BST
R G 1925 1938 10 Sun>=2 7200s 0 GMT
R G 1927 1927 4 Sun>=9 7200s 3600 BST
R G 1928 1929 4 Sun>=16 7200s 3600 BST
R G 1930 1930 4 Sun>=9 7200s 3600 BST
R G 1931 1932 4 Sun>=16 7200s 3600 BST
R G 1933 1933 4 Sun>=9 7200s 3600 BST
R G 1934 1934 4 Sun>=16 7200s 3600 BST
R G 1935 1935 4 Sun>=9 7200s 3600 BST
R G 1936 1937 4 Sun>=16 7200s 3600 BST
R G 1938 1938 4 Sun>=9 7200s 3600 BST
R G 1939 1939 4 Sun>=16 7200s 3600 BST
R G 1939 1939 11 Sun>=16 7200s 0 GMT
R G 1940 1940 2 Sun>=23 7200s 3600 BST
R G 1941 1941 5 Sun>=2 3600s 7200 BDST
R G 1941 1943 8 Sun>=9 3600s 3600 BST
R G 1942 1944 4 Sun>=2 3600s 7200 BDST
R G 1944 1944 9 Sun>=16 3600s 3600 BST
R G 1945 1945 4 Mon>=2 3600s 7200 BDST
R G 1945 1945 7 Sun>=9 3600s 3600 BST
R G 1945 1946 10 Sun>=2 7200s 0 GMT
R G 1946 1946 4 Sun>=9 7200s 3600 BST
R G 1947 1947 3 16 7200s 3600 BST
R G 1947 1947 4 13 3600s 7200 BDST
R G 1947 1947 8 10 3600s 3600 BST
R G 1947 1947 11 2 7200s 0 GMT
R G 1948 1948 3 14 7200s 3600 BST
R G 1948 1948 10 31 7200s 0 GMT
R G 1949 1949 4 3 7200s 3600 BST
R G 1949 1949 10 30 7200s 0 GMT
R G 1950 1952 4 Sun>=14 7200s 3600 BST
R G 1950 1952 10 Sun>=21 7200s 0 GMT
R G 1953 1953 4 Sun>=16 7200s 3600 BST
R G 1953 1960 10 Sun>=2 7200s 0 GMT
R G 1954 1954 4 Sun>=9 7200s 3600 BST
R G 1955 1956 4 Sun>=16 7200s 3600 BST
R G 1957 1957 4 Sun>=9 7200s 3600 BST
R G 1958 1959 4 Sun>=16 7200s 3600 BST
R G 1960 1960 4 Sun>=9 7200s 3600 BST
R G 1961 1963 3 lastSun 7200s 3600 BST
R G 1961 1968 10 Sun>=23 7200s 0 GMT
R G 1964 1967 3 Sun>=19 7200s 3600 BST
R G 1968 1968 2 18 7200s 3600 BST
R G 1972 1980 3 Sun>=16 7200s 3600 BST
R G 1972 1980 10 Sun>=23 7200s 0 GMT
R G 1981 1995 3 lastSun 3600u 3600 BST
R G 1981 1989 10 Sun>=23 3600u 0 GMT
R G 1990 1995 10 Sun>=22 3600u 0 GMT
R E 1977 1980 4 Sun>=1 3600u 3600 S
R E 1977 1977 9 lastSun 3600u 0 -
R E 1978 1978 10 1 3600u 0 -
R E 1979 1995 9 lastSun 3600u 0 -
R E 1981 max 3 lastSun 3600u 3600 S
R E 1996 max 10 lastSun 3600u 0 -
R W- 1977 1980 4 Sun>=1 3600s 3600 S
R W- 1977 1977 9 lastSun 3600s 0 -
R W- 1978 1978 10 1 3600s 0 -
R W- 1979 1995 9 lastSun 3600s 0 -
R W- 1981 max 3 lastSun 3600s 3600 S
R W- 1996 max 10 lastSun 3600s 0 -
R c 1916 1916 4 30 82800w 3600 S
R c 1916 1916 10 1 3600w 0 -
R c 1917 1918 4 Mon>=15 7200s 3600 S
R c 1917 1918 9 Mon>=15 7200s 0 -
R c 1940 1940 4 1 7200s 3600 S
R c 1942 1942 11 2 7200s 0 -
R c 1943 1943 3 29 7200s 3600 S
R c 1943 1943 10 4 7200s 0 -
R c 1944 1945 4 Mon>=1 7200s 3600 S
R c 1944 1944 10 2 7200s 0 -
R c 1945 1945 9 16 7200s 0 -
R c 1977 1980 4 Sun>=1 7200s 3600 S
R c 1977 1977 9 lastSun 7200s 0 -
R c 1978 1978 10 1 7200s 0 -
R c 1979 1995 9 lastSun 7200s 0 -
R c 1981 max 3 lastSun 7200s 3600 S
R c 1996 max 10 lastSun 7200s 0 -
R e 1977 1980 4 Sun>=1 0w 3600 S
R e 1977 1977 9 lastSun 0w 0 -
R e 1978 1978 10 1 0w 0 -
R e 1979 1995 9 lastSun 0w 0 -
R e 1981 max 3 lastSun 0w 3600 S
R e 1996 max 10 lastSun 0w 0 -
R R 1917 1917 7 1 82800w 3600 MST
R R 1917 1917 12 28 0w 0 MMT
R R 1918 1918 5 31 79200w 7200 MDST
R R 1918 1918 9 16 3600w 3600 MST
R R 1919 1919 5 31 82800w 7200 MDST
R R 1919 1919 7 1 0u 3600 MSD
R R 1919 1919 8 16 0w 0 MSK
R R 1921 1921 2 14 82800w 3600 MSD
R R 1921 1921 3 20 82800w 7200 +05
R R 1921 1921 9 1 0w 3600 MSD
R R 1921 1921 10 1 0w 0 -
R R 1981 1984 4 1 0w 3600 S
R R 1981 1983 10 1 0w 0 -
R R 1984 1995 9 lastSun 7200s 0 -
R R 1985 2010 3 lastSun 7200s 3600 S
R R 1996 2010 10 lastSun 7200s 0 -
R q 1940 1940 6 16 0w 3600 S
R q 1942 1942 11 2 10800w 0 -
R q 1943 1943 3 29 7200w 3600 S
R q 1943 1943 4 10 10800w 0 -
R q 1974 1974 5 4 0w 3600 S
R q 1974 1974 10 2 0w 0 -
R q 1975 1975 5 1 0w 3600 S
R q 1975 1975 10 2 0w 0 -
R q 1976 1976 5 2 0w 3600 S
R q 1976 1976 10 3 0w 0 -
R q 1977 1977 5 8 0w 3600 S
R q 1977 1977 10 2 0w 0 -
R q 1978 1978 5 6 0w 3600 S
R q 1978 1978 10 1 0w 0 -
R q 1979 1979 5 5 0w 3600 S
R q 1979 1979 9 30 0w 0 -
R q 1980 1980 5 3 0w 3600 S
R q 1980 1980 10 4 0w 0 -
R q 1981 1981 4 26 0w 3600 S
R q 1981 1981 9 27 0w 0 -
R q 1982 1982 5 2 0w 3600 S
R q 1982 1982 10 3 0w 0 -
R q 1983 1983 4 18 0w 3600 S
R q 1983 1983 10 1 0w 0 -
R q 1984 1984 4 1 0w 3600 S
R a 1920 1920 4 5 7200s 3600 S
R a 1920 1920 9 13 7200s 0 -
R a 1946 1946 4 14 7200s 3600 S
R a 1946 1946 10 7 7200s 0 -
R a 1947 1948 10 Sun>=1 7200s 0 -
R a 1947 1947 4 6 7200s 3600 S
R a 1948 1948 4 18 7200s 3600 S
R a 1980 1980 4 6 0w 3600 S
R a 1980 1980 9 28 0w 0 -
R b 1918 1918 3 9 0s 3600 S
R b 1918 1919 10 Sat>=1 82800s 0 -
R b 1919 1919 3 1 82800s 3600 S
R b 1920 1920 2 14 82800s 3600 S
R b 1920 1920 10 23 82800s 0 -
R b 1921 1921 3 14 82800s 3600 S
R b 1921 1921 10 25 82800s 0 -
R b 1922 1922 3 25 82800s 3600 S
R b 1922 1927 10 Sat>=1 82800s 0 -
R b 1923 1923 4 21 82800s 3600 S
R b 1924 1924 3 29 82800s 3600 S
R b 1925 1925 4 4 82800s 3600 S
R b 1926 1926 4 17 82800s 3600 S
R b 1927 1927 4 9 82800s 3600 S
R b 1928 1928 4 14 82800s 3600 S
R b 1928 1938 10 Sun>=2 7200s 0 -
R b 1929 1929 4 21 7200s 3600 S
R b 1930 1930 4 13 7200s 3600 S
R b 1931 1931 4 19 7200s 3600 S
R b 1932 1932 4 3 7200s 3600 S
R b 1933 1933 3 26 7200s 3600 S
R b 1934 1934 4 8 7200s 3600 S
R b 1935 1935 3 31 7200s 3600 S
R b 1936 1936 4 19 7200s 3600 S
R b 1937 1937 4 4 7200s 3600 S
R b 1938 1938 3 27 7200s 3600 S
R b 1939 1939 4 16 7200s 3600 S
R b 1939 1939 11 19 7200s 0 -
R b 1940 1940 2 25 7200s 3600 S
R b 1944 1944 9 17 7200s 0 -
R b 1945 1945 4 2 7200s 3600 S
R b 1945 1945 9 16 7200s 0 -
R b 1946 1946 5 19 7200s 3600 S
R b 1946 1946 10 7 7200s 0 -
R BG 1979 1979 3 31 82800w 3600 S
R BG 1979 1979 10 1 3600w 0 -
R BG 1980 1982 4 Sat>=1 82800w 3600 S
R BG 1980 1980 9 29 3600w 0 -
R BG 1981 1981 9 27 7200w 0 -
R CZ 1945 1945 4 Mon>=1 7200s 3600 S
R CZ 1945 1945 10 1 7200s 0 -
R CZ 1946 1946 5 6 7200s 3600 S
R CZ 1946 1949 10 Sun>=1 7200s 0 -
R CZ 1947 1948 4 Sun>=15 7200s 3600 S
R CZ 1949 1949 4 9 7200s 3600 S
R Th 1991 1992 3 lastSun 7200w 3600 D
R Th 1991 1992 9 lastSun 7200w 0 S
R Th 1993 2006 4 Sun>=1 7200w 3600 D
R Th 1993 2006 10 lastSun 7200w 0 S
R Th 2007 max 3 Sun>=8 7200w 3600 D
R Th 2007 max 11 Sun>=1 7200w 0 S
R FI 1942 1942 4 2 86400w 3600 S
R FI 1942 1942 10 4 3600w 0 -
R FI 1981 1982 3 lastSun 7200w 3600 S
R FI 1981 1982 9 lastSun 10800w 0 -
R F 1916 1916 6 14 82800s 3600 S
R F 1916 1919 10 Sun>=1 82800s 0 -
R F 1917 1917 3 24 82800s 3600 S
R F 1918 1918 3 9 82800s 3600 S
R F 1919 1919 3 1 82800s 3600 S
R F 1920 1920 2 14 82800s 3600 S
R F 1920 1920 10 23 82800s 0 -
R F 1921 1921 3 14 82800s 3600 S
R F 1921 1921 10 25 82800s 0 -
R F 1922 1922 3 25 82800s 3600 S
R F 1922 1938 10 Sat>=1 82800s 0 -
R F 1923 1923 5 26 82800s 3600 S
R F 1924 1924 3 29 82800s 3600 S
R F 1925 1925 4 4 82800s 3600 S
R F 1926 1926 4 17 82800s 3600 S
R F 1927 1927 4 9 82800s 3600 S
R F 1928 1928 4 14 82800s 3600 S
R F 1929 1929 4 20 82800s 3600 S
R F 1930 1930 4 12 82800s 3600 S
R F 1931 1931 4 18 82800s 3600 S
R F 1932 1932 4 2 82800s 3600 S
R F 1933 1933 3 25 82800s 3600 S
R F 1934 1934 4 7 82800s 3600 S
R F 1935 1935 3 30 82800s 3600 S
R F 1936 1936 4 18 82800s 3600 S
R F 1937 1937 4 3 82800s 3600 S
R F 1938 1938 3 26 82800s 3600 S
R F 1939 1939 4 15 82800s 3600 S
R F 1939 1939 11 18 82800s 0 -
R F 1940 1940 2 25 7200w 3600 S
R F 1941 1941 5 5 0w 7200 M
R F 1941 1941 10 6 0w 3600 S
R F 1942 1942 3 9 0w 7200 M
R F 1942 1942 11 2 10800w 3600 S
R F 1943 1943 3 29 7200w 7200 M
R F 1943 1943 10 4 10800w 3600 S
R F 1944 1944 4 3 7200w 7200 M
R F 1944 1944 10 8 3600w 3600 S
R F 1945 1945 4 2 7200w 7200 M
R F 1945 1945 9 16 10800w 0 -
R F 1976 1976 3 28 3600w 3600 S
R F 1976 1976 9 26 3600w 0 -
R DE 1946 1946 4 14 7200s 3600 S
R DE 1946 1946 10 7 7200s 0 -
R DE 1947 1949 10 Sun>=1 7200s 0 -
R DE 1947 1947 4 6 10800s 3600 S
R DE 1947 1947 5 11 7200s 7200 M
R DE 1947 1947 6 29 10800w 3600 S
R DE 1948 1948 4 18 7200s 3600 S
R DE 1949 1949 4 10 7200s 3600 S
R So 1945 1945 5 24 7200w 7200 M
R So 1945 1945 9 24 10800w 3600 S
R So 1945 1945 11 18 7200s 0 -
R g 1932 1932 7 7 0w 3600 S
R g 1932 1932 9 1 0w 0 -
R g 1941 1941 4 7 0w 3600 S
R g 1942 1942 11 2 10800w 0 -
R g 1943 1943 3 30 0w 3600 S
R g 1943 1943 10 4 0w 0 -
R g 1952 1952 7 1 0w 3600 S
R g 1952 1952 11 2 0w 0 -
R g 1975 1975 4 12 0s 3600 S
R g 1975 1975 11 26 0s 0 -
R g 1976 1976 4 11 7200s 3600 S
R g 1976 1976 10 10 7200s 0 -
R g 1977 1978 4 Sun>=1 7200s 3600 S
R g 1977 1977 9 26 7200s 0 -
R g 1978 1978 9 24 14400w 0 -
R g 1979 1979 4 1 32400w 3600 S
R g 1979 1979 9 29 7200w 0 -
R g 1980 1980 4 1 0w 3600 S
R g 1980 1980 9 28 0w 0 -
R h 1918 1919 4 15 7200w 3600 S
R h 1918 1920 9 Mon>=15 10800w 0 -
R h 1920 1920 4 5 7200w 3600 S
R h 1945 1945 5 1 82800w 3600 S
R h 1945 1945 11 1 3600w 0 -
R h 1946 1946 3 31 7200s 3600 S
R h 1946 1946 10 7 7200w 0 -
R h 1947 1949 4 Sun>=4 7200s 3600 S
R h 1947 1949 10 Sun>=1 7200s 0 -
R h 1954 1954 5 23 0w 3600 S
R h 1954 1954 10 3 0w 0 -
R h 1955 1955 5 22 7200w 3600 S
R h 1955 1955 10 2 10800w 0 -
R h 1956 1957 6 Sun>=1 7200w 3600 S
R h 1956 1957 9 lastSun 10800w 0 -
R h 1980 1980 4 6 0w 3600 S
R h 1980 1980 9 28 3600w 0 -
R h 1981 1983 3 lastSun 0w 3600 S
R h 1981 1983 9 lastSun 3600w 0 -
R I 1916 1916 6 3 86400w 3600 S
R I 1916 1917 9 30 86400w 0 -
R I 1917 1917 3 31 86400w 3600 S
R I 1918 1918 3 9 86400w 3600 S
R I 1918 1918 10 6 86400w 0 -
R I 1919 1919 3 1 86400w 3600 S
R I 1919 1919 10 4 86400w 0 -
R I 1920 1920 3 20 86400w 3600 S
R I 1920 1920 9 18 86400w 0 -
R I 1940 1940 6 14 86400w 3600 S
R I 1942 1942 11 2 7200s 0 -
R I 1943 1943 3 29 7200s 3600 S
R I 1943 1943 10 4 7200s 0 -
R I 1944 1944 4 2 7200s 3600 S
R I 1944 1944 9 17 7200s 0 -
R I 1945 1945 4 2 7200w 3600 S
R I 1945 1945 9 15 3600w 0 -
R I 1946 1946 3 17 7200s 3600 S
R I 1946 1946 10 6 7200s 0 -
R I 1947 1947 3 16 0s 3600 S
R I 1947 1947 10 5 0s 0 -
R I 1948 1948 2 29 7200s 3600 S
R I 1948 1948 10 3 7200s 0 -
R I 1966 1968 5 Sun>=22 0s 3600 S
R I 1966 1966 9 24 86400w 0 -
R I 1967 1969 9 Sun>=22 0s 0 -
R I 1969 1969 6 1 0s 3600 S
R I 1970 1970 5 31 0s 3600 S
R I 1970 1970 9 lastSun 0s 0 -
R I 1971 1972 5 Sun>=22 0s 3600 S
R I 1971 1971 9 lastSun 0s 0 -
R I 1972 1972 10 1 0s 0 -
R I 1973 1973 6 3 0s 3600 S
R I 1973 1974 9 lastSun 0s 0 -
R I 1974 1974 5 26 0s 3600 S
R I 1975 1975 6 1 0s 3600 S
R I 1975 1977 9 lastSun 0s 0 -
R I 1976 1976 5 30 0s 3600 S
R I 1977 1979 5 Sun>=22 0s 3600 S
R I 1978 1978 10 1 0s 0 -
R I 1979 1979 9 30 0s 0 -
R LV 1989 1996 3 lastSun 7200s 3600 S
R LV 1989 1996 9 lastSun 7200s 0 -
R MT 1973 1973 3 31 0s 3600 S
R MT 1973 1973 9 29 0s 0 -
R MT 1974 1974 4 21 0s 3600 S
R MT 1974 1974 9 16 0s 0 -
R MT 1975 1979 4 Sun>=15 7200w 3600 S
R MT 1975 1980 9 Sun>=15 7200w 0 -
R MT 1980 1980 3 31 7200w 3600 S
R MD 1997 max 3 lastSun 7200w 3600 S
R MD 1997 max 10 lastSun 10800w 0 -
R O 1918 1919 9 16 7200s 0 -
R O 1919 1919 4 15 7200s 3600 S
R O 1944 1944 4 3 7200s 3600 S
R O 1944 1944 10 4 7200w 0 -
R O 1945 1945 4 29 0w 3600 S
R O 1945 1945 11 1 0w 0 -
R O 1946 1946 4 14 0s 3600 S
R O 1946 1946 10 7 7200s 0 -
R O 1947 1947 5 4 7200s 3600 S
R O 1947 1949 10 Sun>=1 7200s 0 -
R O 1948 1948 4 18 7200s 3600 S
R O 1949 1949 4 10 7200s 3600 S
R O 1957 1957 6 2 3600s 3600 S
R O 1957 1958 9 lastSun 3600s 0 -
R O 1958 1958 3 30 3600s 3600 S
R O 1959 1959 5 31 3600s 3600 S
R O 1959 1961 10 Sun>=1 3600s 0 -
R O 1960 1960 4 3 3600s 3600 S
R O 1961 1964 5 lastSun 3600s 3600 S
R O 1962 1964 9 lastSun 3600s 0 -
R z 1932 1932 5 21 0s 3600 S
R z 1932 1939 10 Sun>=1 0s 0 -
R z 1933 1939 4 Sun>=2 0s 3600 S
R z 1979 1979 5 27 0w 3600 S
R z 1979 1979 9 lastSun 0w 0 -
R z 1980 1980 4 5 82800w 3600 S
R z 1980 1980 9 lastSun 3600w 0 -
R z 1991 1993 3 lastSun 0s 3600 S
R z 1991 1993 9 lastSun 0s 0 -
R s 1918 1918 4 15 82800w 3600 S
R s 1918 1919 10 6 86400s 0 -
R s 1919 1919 4 6 82800w 3600 S
R s 1924 1924 4 16 82800w 3600 S
R s 1924 1924 10 4 86400s 0 -
R s 1926 1926 4 17 82800w 3600 S
R s 1926 1929 10 Sat>=1 86400s 0 -
R s 1927 1927 4 9 82800w 3600 S
R s 1928 1928 4 15 0w 3600 S
R s 1929 1929 4 20 82800w 3600 S
R s 1937 1937 6 16 82800w 3600 S
R s 1937 1937 10 2 86400s 0 -
R s 1938 1938 4 2 82800w 3600 S
R s 1938 1938 4 30 82800w 7200 M
R s 1938 1938 10 2 86400w 3600 S
R s 1939 1939 10 7 86400s 0 -
R s 1942 1942 5 2 82800w 3600 S
R s 1942 1942 9 1 3600w 0 -
R s 1943 1946 4 Sat>=13 82800w 3600 S
R s 1943 1944 10 Sun>=1 3600w 0 -
R s 1945 1946 9 lastSun 3600w 0 -
R s 1949 1949 4 30 82800w 3600 S
R s 1949 1949 10 2 3600w 0 -
R s 1974 1975 4 Sat>=12 82800w 3600 S
R s 1974 1975 10 Sun>=1 3600w 0 -
R s 1976 1976 3 27 82800w 3600 S
R s 1976 1977 9 lastSun 3600w 0 -
R s 1977 1977 4 2 82800w 3600 S
R s 1978 1978 4 2 7200s 3600 S
R s 1978 1978 10 1 7200s 0 -
R Sp 1967 1967 6 3 43200w 3600 S
R Sp 1967 1967 10 1 0w 0 -
R Sp 1974 1974 6 24 0w 3600 S
R Sp 1974 1974 9 1 0w 0 -
R Sp 1976 1977 5 1 0w 3600 S
R Sp 1976 1976 8 1 0w 0 -
R Sp 1977 1977 9 28 0w 0 -
R Sp 1978 1978 6 1 0w 3600 S
R Sp 1978 1978 8 4 0w 0 -
R CH 1941 1942 5 Mon>=1 3600w 3600 S
R CH 1941 1942 10 Mon>=1 7200w 0 -
R T 1916 1916 5 1 0w 3600 S
R T 1916 1916 10 1 0w 0 -
R T 1920 1920 3 28 0w 3600 S
R T 1920 1920 10 25 0w 0 -
R T 1921 1921 4 3 0w 3600 S
R T 1921 1921 10 3 0w 0 -
R T 1922 1922 3 26 0w 3600 S
R T 1922 1922 10 8 0w 0 -
R T 1924 1924 5 13 0w 3600 S
R T 1924 1925 10 1 0w 0 -
R T 1925 1925 5 1 0w 3600 S
R T 1940 1940 7 1 0w 3600 S
R T 1940 1940 10 6 0w 0 -
R T 1940 1940 12 1 0w 3600 S
R T 1941 1941 9 21 0w 0 -
R T 1942 1942 4 1 0w 3600 S
R T 1945 1945 10 8 0w 0 -
R T 1946 1946 6 1 0w 3600 S
R T 1946 1946 10 1 0w 0 -
R T 1947 1948 4 Sun>=16 0w 3600 S
R T 1947 1951 10 Sun>=2 0w 0 -
R T 1949 1949 4 10 0w 3600 S
R T 1950 1950 4 16 0w 3600 S
R T 1951 1951 4 22 0w 3600 S
R T 1962 1962 7 15 0w 3600 S
R T 1963 1963 10 30 0w 0 -
R T 1964 1964 5 15 0w 3600 S
R T 1964 1964 10 1 0w 0 -
R T 1973 1973 6 3 3600w 3600 S
R T 1973 1976 10 Sun>=31 7200w 0 -
R T 1974 1974 3 31 7200w 3600 S
R T 1975 1975 3 22 7200w 3600 S
R T 1976 1976 3 21 7200w 3600 S
R T 1977 1978 4 Sun>=1 7200w 3600 S
R T 1977 1978 10 Sun>=15 7200w 0 -
R T 1978 1978 6 29 0w 0 -
R T 1983 1983 7 31 7200w 3600 S
R T 1983 1983 10 2 7200w 0 -
R T 1985 1985 4 20 3600s 3600 S
R T 1985 1985 9 28 3600s 0 -
R T 1986 1993 3 lastSun 3600s 3600 S
R T 1986 1995 9 lastSun 3600s 0 -
R T 1994 1994 3 20 3600s 3600 S
R T 1995 2006 3 lastSun 3600s 3600 S
R T 1996 2006 10 lastSun 3600s 0 -
R u 1918 1919 3 lastSun 7200w 3600 D
R u 1918 1919 10 lastSun 7200w 0 S
R u 1942 1942 2 9 7200w 3600 W
R u 1945 1945 8 14 82800u 3600 P
R u 1945 1945 9 30 7200w 0 S
R u 1967 2006 10 lastSun 7200w 0 S
R u 1967 1973 4 lastSun 7200w 3600 D
R u 1974 1974 1 6 7200w 3600 D
R u 1975 1975 2 lastSun 7200w 3600 D
R u 1976 1986 4 lastSun 7200w 3600 D
R u 1987 2006 4 Sun>=1 7200w 3600 D
R u 2007 max 3 Sun>=8 7200w 3600 D
R u 2007 max 11 Sun>=1 7200w 0 S
R NY 1920 1920 3 lastSun 7200w 3600 D
R NY 1920 1920 10 lastSun 7200w 0 S
R NY 1921 1966 4 lastSun 7200w 3600 D
R NY 1921 1954 9 lastSun 7200w 0 S
R NY 1955 1966 10 lastSun 7200w 0 S
R Ch 1920 1920 6 13 7200w 3600 D
R Ch 1920 1921 10 lastSun 7200w 0 S
R Ch 1921 1921 3 lastSun 7200w 3600 D
R Ch 1922 1966 4 lastSun 7200w 3600 D
R Ch 1922 1954 9 lastSun 7200w 0 S
R Ch 1955 1966 10 lastSun 7200w 0 S
R De 1920 1921 3 lastSun 7200w 3600 D
R De 1920 1920 10 lastSun 7200w 0 S
R De 1921 1921 5 22 7200w 0 S
R De 1965 1966 4 lastSun 7200w 3600 D
R De 1965 1966 10 lastSun 7200w 0 S
R CA 1948 1948 3 14 7260w 3600 D
R CA 1949 1949 1 1 7200w 0 S
R CA 1950 1966 4 lastSun 3600w 3600 D
R CA 1950 1961 9 lastSun 7200w 0 S
R CA 1962 1966 10 lastSun 7200w 0 S
R In 1941 1941 6 22 7200w 3600 D
R In 1941 1954 9 lastSun 7200w 0 S
R In 1946 1954 4 lastSun 7200w 3600 D
R Ma 1951 1951 4 lastSun 7200w 3600 D
R Ma 1951 1951 9 lastSun 7200w 0 S
R Ma 1954 1960 4 lastSun 7200w 3600 D
R Ma 1954 1960 9 lastSun 7200w 0 S
R V 1946 1946 4 lastSun 7200w 3600 D
R V 1946 1946 9 lastSun 7200w 0 S
R V 1953 1954 4 lastSun 7200w 3600 D
R V 1953 1959 9 lastSun 7200w 0 S
R V 1955 1955 5 1 0w 3600 D
R V 1956 1963 4 lastSun 7200w 3600 D
R V 1960 1960 10 lastSun 7200w 0 S
R V 1961 1961 9 lastSun 7200w 0 S
R V 1962 1963 10 lastSun 7200w 0 S
R Pe 1955 1955 5 1 0w 3600 D
R Pe 1955 1960 9 lastSun 7200w 0 S
R Pe 1956 1963 4 lastSun 7200w 3600 D
R Pe 1961 1963 10 lastSun 7200w 0 S
R Pi 1955 1955 5 1 0w 3600 D
R Pi 1955 1960 9 lastSun 7200w 0 S
R Pi 1956 1964 4 lastSun 7200w 3600 D
R Pi 1961 1964 10 lastSun 7200w 0 S
R St 1947 1961 4 lastSun 7200w 3600 D
R St 1947 1954 9 lastSun 7200w 0 S
R St 1955 1956 10 lastSun 7200w 0 S
R St 1957 1958 9 lastSun 7200w 0 S
R St 1959 1961 10 lastSun 7200w 0 S
R Pu 1946 1960 4 lastSun 7200w 3600 D
R Pu 1946 1954 9 lastSun 7200w 0 S
R Pu 1955 1956 10 lastSun 7200w 0 S
R Pu 1957 1960 9 lastSun 7200w 0 S
R v 1921 1921 5 1 7200w 3600 D
R v 1921 1921 9 1 7200w 0 S
R v 1941 1941 4 lastSun 7200w 3600 D
R v 1941 1941 9 lastSun 7200w 0 S
R v 1946 1946 4 lastSun 60w 3600 D
R v 1946 1946 6 2 7200w 0 S
R v 1950 1961 4 lastSun 7200w 3600 D
R v 1950 1955 9 lastSun 7200w 0 S
R v 1956 1961 10 lastSun 7200w 0 S
R Dt 1948 1948 4 lastSun 7200w 3600 D
R Dt 1948 1948 9 lastSun 7200w 0 S
R Me 1946 1946 4 lastSun 7200w 3600 D
R Me 1946 1946 9 lastSun 7200w 0 S
R Me 1966 1966 4 lastSun 7200w 3600 D
R Me 1966 1966 10 lastSun 7200w 0 S
R C 1918 1918 4 14 7200w 3600 D
R C 1918 1918 10 27 7200w 0 S
R C 1942 1942 2 9 7200w 3600 W
R C 1945 1945 8 14 82800u 3600 P
R C 1945 1945 9 30 7200w 0 S
R C 1974 1986 4 lastSun 7200w 3600 D
R C 1974 2006 10 lastSun 7200w 0 S
R C 1987 2006 4 Sun>=1 7200w 3600 D
R C 2007 max 3 Sun>=8 7200w 3600 D
R C 2007 max 11 Sun>=1 7200w 0 S
R j 1917 1917 4 8 7200w 3600 D
R j 1917 1917 9 17 7200w 0 S
R j 1919 1919 5 5 82800w 3600 D
R j 1919 1919 8 12 82800w 0 S
R j 1920 1935 5 Sun>=1 82800w 3600 D
R j 1920 1935 10 lastSun 82800w 0 S
R j 1936 1941 5 Mon>=9 0w 3600 D
R j 1936 1941 10 Mon>=2 0w 0 S
R j 1946 1950 5 Sun>=8 7200w 3600 D
R j 1946 1950 10 Sun>=2 7200w 0 S
R j 1951 1986 4 lastSun 7200w 3600 D
R j 1951 1959 9 lastSun 7200w 0 S
R j 1960 1986 10 lastSun 7200w 0 S
R j 1987 1987 4 Sun>=1 60w 3600 D
R j 1987 2006 10 lastSun 60w 0 S
R j 1988 1988 4 Sun>=1 60w 7200 DD
R j 1989 2006 4 Sun>=1 60w 3600 D
R j 2007 2011 3 Sun>=8 60w 3600 D
R j 2007 2010 11 Sun>=1 60w 0 S
R H 1916 1916 4 1 0w 3600 D
R H 1916 1916 10 1 0w 0 S
R H 1920 1920 5 9 0w 3600 D
R H 1920 1920 8 29 0w 0 S
R H 1921 1921 5 6 0w 3600 D
R H 1921 1922 9 5 0w 0 S
R H 1922 1922 4 30 0w 3600 D
R H 1923 1925 5 Sun>=1 0w 3600 D
R H 1923 1923 9 4 0w 0 S
R H 1924 1924 9 15 0w 0 S
R H 1925 1925 9 28 0w 0 S
R H 1926 1926 5 16 0w 3600 D
R H 1926 1926 9 13 0w 0 S
R H 1927 1927 5 1 0w 3600 D
R H 1927 1927 9 26 0w 0 S
R H 1928 1931 5 Sun>=8 0w 3600 D
R H 1928 1928 9 9 0w 0 S
R H 1929 1929 9 3 0w 0 S
R H 1930 1930 9 15 0w 0 S
R H 1931 1932 9 Mon>=24 0w 0 S
R H 1932 1932 5 1 0w 3600 D
R H 1933 1933 4 30 0w 3600 D
R H 1933 1933 10 2 0w 0 S
R H 1934 1934 5 20 0w 3600 D
R H 1934 1934 9 16 0w 0 S
R H 1935 1935 6 2 0w 3600 D
R H 1935 1935 9 30 0w 0 S
R H 1936 1936 6 1 0w 3600 D
R H 1936 1936 9 14 0w 0 S
R H 1937 1938 5 Sun>=1 0w 3600 D
R H 1937 1941 9 Mon>=24 0w 0 S
R H 1939 1939 5 28 0w 3600 D
R H 1940 1941 5 Sun>=1 0w 3600 D
R H 1946 1949 4 lastSun 7200w 3600 D
R H 1946 1949 9 lastSun 7200w 0 S
R H 1951 1954 4 lastSun 7200w 3600 D
R H 1951 1954 9 lastSun 7200w 0 S
R H 1956 1959 4 lastSun 7200w 3600 D
R H 1956 1959 9 lastSun 7200w 0 S
R H 1962 1973 4 lastSun 7200w 3600 D
R H 1962 1973 10 lastSun 7200w 0 S
R o 1933 1935 6 Sun>=8 3600w 3600 D
R o 1933 1935 9 Sun>=8 3600w 0 S
R o 1936 1938 6 Sun>=1 3600w 3600 D
R o 1936 1938 9 Sun>=1 3600w 0 S
R o 1939 1939 5 27 3600w 3600 D
R o 1939 1941 9 Sat>=21 3600w 0 S
R o 1940 1940 5 19 3600w 3600 D
R o 1941 1941 5 4 3600w 3600 D
R o 1946 1972 4 lastSun 7200w 3600 D
R o 1946 1956 9 lastSun 7200w 0 S
R o 1957 1972 10 lastSun 7200w 0 S
R o 1993 2006 4 Sun>=1 60w 3600 D
R o 1993 2006 10 lastSun 60w 0 S
R t 1919 1919 3 30 84600w 3600 D
R t 1919 1919 10 26 0w 0 S
R t 1920 1920 5 2 7200w 3600 D
R t 1920 1920 9 26 0w 0 S
R t 1921 1921 5 15 7200w 3600 D
R t 1921 1921 9 15 7200w 0 S
R t 1922 1923 5 Sun>=8 7200w 3600 D
R t 1922 1926 9 Sun>=15 7200w 0 S
R t 1924 1927 5 Sun>=1 7200w 3600 D
R t 1927 1937 9 Sun>=25 7200w 0 S
R t 1928 1937 4 Sun>=25 7200w 3600 D
R t 1938 1940 4 lastSun 7200w 3600 D
R t 1938 1939 9 lastSun 7200w 0 S
R t 1945 1948 9 lastSun 7200w 0 S
R t 1946 1973 4 lastSun 7200w 3600 D
R t 1949 1950 11 lastSun 7200w 0 S
R t 1951 1956 9 lastSun 7200w 0 S
R t 1957 1973 10 lastSun 7200w 0 S
R W 1916 1916 4 23 0w 3600 D
R W 1916 1916 9 17 0w 0 S
R W 1918 1918 4 14 7200w 3600 D
R W 1918 1918 10 27 7200w 0 S
R W 1937 1937 5 16 7200w 3600 D
R W 1937 1937 9 26 7200w 0 S
R W 1942 1942 2 9 7200w 3600 W
R W 1945 1945 8 14 82800u 3600 P
R W 1945 1945 9 lastSun 7200w 0 S
R W 1946 1946 5 12 7200w 3600 D
R W 1946 1946 10 13 7200w 0 S
R W 1947 1949 4 lastSun 7200w 3600 D
R W 1947 1949 9 lastSun 7200w 0 S
R W 1950 1950 5 1 7200w 3600 D
R W 1950 1950 9 30 7200w 0 S
R W 1951 1960 4 lastSun 7200w 3600 D
R W 1951 1958 9 lastSun 7200w 0 S
R W 1959 1959 10 lastSun 7200w 0 S
R W 1960 1960 9 lastSun 7200w 0 S
R W 1963 1963 4 lastSun 7200w 3600 D
R W 1963 1963 9 22 7200w 0 S
R W 1966 1986 4 lastSun 7200s 3600 D
R W 1966 2005 10 lastSun 7200s 0 S
R W 1987 2005 4 Sun>=1 7200s 3600 D
R r 1918 1918 4 14 7200w 3600 D
R r 1918 1918 10 27 7200w 0 S
R r 1930 1934 5 Sun>=1 0w 3600 D
R r 1930 1934 10 Sun>=1 0w 0 S
R r 1937 1941 4 Sun>=8 0w 3600 D
R r 1937 1937 10 Sun>=8 0w 0 S
R r 1938 1938 10 Sun>=1 0w 0 S
R r 1939 1941 10 Sun>=8 0w 0 S
R r 1942 1942 2 9 7200w 3600 W
R r 1945 1945 8 14 82800u 3600 P
R r 1945 1945 9 lastSun 7200w 0 S
R r 1946 1946 4 Sun>=8 7200w 3600 D
R r 1946 1946 10 Sun>=8 7200w 0 S
R r 1947 1957 4 lastSun 7200w 3600 D
R r 1947 1957 9 lastSun 7200w 0 S
R r 1959 1959 4 lastSun 7200w 3600 D
R r 1959 1959 10 lastSun 7200w 0 S
R Sw 1957 1957 4 lastSun 7200w 3600 D
R Sw 1957 1957 10 lastSun 7200w 0 S
R Sw 1959 1961 4 lastSun 7200w 3600 D
R Sw 1959 1959 10 lastSun 7200w 0 S
R Sw 1960 1961 9 lastSun 7200w 0 S
R Ed 1918 1919 4 Sun>=8 7200w 3600 D
R Ed 1918 1918 10 27 7200w 0 S
R Ed 1919 1919 5 27 7200w 0 S
R Ed 1920 1923 4 lastSun 7200w 3600 D
R Ed 1920 1920 10 lastSun 7200w 0 S
R Ed 1921 1923 9 lastSun 7200w 0 S
R Ed 1942 1942 2 9 7200w 3600 W
R Ed 1945 1945 8 14 82800u 3600 P
R Ed 1945 1945 9 lastSun 7200w 0 S
R Ed 1947 1947 4 lastSun 7200w 3600 D
R Ed 1947 1947 9 lastSun 7200w 0 S
R Ed 1972 1986 4 lastSun 7200w 3600 D
R Ed 1972 2006 10 lastSun 7200w 0 S
R Va 1918 1918 4 14 7200w 3600 D
R Va 1918 1918 10 27 7200w 0 S
R Va 1942 1942 2 9 7200w 3600 W
R Va 1945 1945 8 14 82800u 3600 P
R Va 1945 1945 9 30 7200w 0 S
R Va 1946 1986 4 lastSun 7200w 3600 D
R Va 1946 1946 9 29 7200w 0 S
R Va 1947 1961 9 lastSun 7200w 0 S
R Va 1962 2006 10 lastSun 7200w 0 S
R Y 1918 1918 4 14 7200w 3600 D
R Y 1918 1918 10 27 7200w 0 S
R Y 1919 1919 5 25 7200w 3600 D
R Y 1919 1919 11 1 0w 0 S
R Y 1942 1942 2 9 7200w 3600 W
R Y 1945 1945 8 14 82800u 3600 P
R Y 1945 1945 9 30 7200w 0 S
R Y 1972 1986 4 lastSun 7200w 3600 D
R Y 1972 2006 10 lastSun 7200w 0 S
R Y 1987 2006 4 Sun>=1 7200w 3600 D
R Yu 1965 1965 4 lastSun 0w 7200 DD
R Yu 1965 1965 10 lastSun 7200w 0 S
R BB 1942 1942 4 19 18000u 3600 D
R BB 1942 1942 8 31 21600u 0 S
R BB 1943 1943 5 2 18000u 3600 D
R BB 1943 1943 9 5 21600u 0 S
R BB 1944 1944 4 10 18000u 1800 -
R BB 1944 1944 9 10 21600u 0 S
R BB 1977 1977 6 12 7200w 3600 D
R BB 1977 1978 10 Sun>=1 7200w 0 S
R BB 1978 1980 4 Sun>=15 7200w 3600 D
R BB 1979 1979 9 30 7200w 0 S
R BB 1980 1980 9 25 7200w 0 S
R BZ 1918 1941 10 Sat>=1 86400w 1800 -0530
R BZ 1919 1942 2 Sat>=8 86400w 0 CST
R BZ 1942 1942 6 27 86400w 3600 CWT
R BZ 1945 1945 8 14 82800u 3600 CPT
R BZ 1945 1945 12 15 86400w 0 CST
R BZ 1947 1967 10 Sat>=1 86400w 1800 -0530
R BZ 1948 1968 2 Sat>=8 86400w 0 CST
R BZ 1973 1973 12 5 0w 3600 CDT
R BZ 1974 1974 2 9 0w 0 CST
R BZ 1982 1982 12 18 0w 3600 CDT
R BZ 1983 1983 2 12 0w 0 CST
R Be 1917 1917 4 5 86400w 3600 -
R Be 1917 1917 9 30 86400w 0 -
R Be 1918 1918 4 13 86400w 3600 -
R Be 1918 1918 9 15 86400w 0 S
R Be 1942 1942 1 11 7200w 3600 D
R Be 1942 1942 10 18 7200w 0 S
R Be 1943 1943 3 21 7200w 3600 D
R Be 1943 1943 10 31 7200w 0 S
R Be 1944 1945 3 Sun>=8 7200w 3600 D
R Be 1944 1945 11 Sun>=1 7200w 0 S
R Be 1947 1947 5 Sun>=15 7200w 3600 D
R Be 1947 1947 9 Sun>=8 7200w 0 S
R Be 1948 1952 5 Sun>=22 7200w 3600 D
R Be 1948 1952 9 Sun>=1 7200w 0 S
R Be 1956 1956 5 Sun>=22 7200w 3600 D
R Be 1956 1956 10 lastSun 7200w 0 S
R CR 1979 1980 2 lastSun 0w 3600 D
R CR 1979 1980 6 Sun>=1 0w 0 S
R CR 1991 1992 1 Sat>=15 0w 3600 D
R CR 1991 1991 7 1 0w 0 S
R CR 1992 1992 3 15 0w 0 S
R Q 1928 1928 6 10 0w 3600 D
R Q 1928 1928 10 10 0w 0 S
R Q 1940 1942 6 Sun>=1 0w 3600 D
R Q 1940 1942 9 Sun>=1 0w 0 S
R Q 1945 1946 6 Sun>=1 0w 3600 D
R Q 1945 1946 9 Sun>=1 0w 0 S
R Q 1965 1965 6 1 0w 3600 D
R Q 1965 1965 9 30 0w 0 S
R Q 1966 1966 5 29 0w 3600 D
R Q 1966 1966 10 2 0w 0 S
R Q 1967 1967 4 8 0w 3600 D
R Q 1967 1968 9 Sun>=8 0w 0 S
R Q 1968 1968 4 14 0w 3600 D
R Q 1969 1977 4 lastSun 0w 3600 D
R Q 1969 1971 10 lastSun 0w 0 S
R Q 1972 1974 10 8 0w 0 S
R Q 1975 1977 10 lastSun 0w 0 S
R Q 1978 1978 5 7 0w 3600 D
R Q 1978 1990 10 Sun>=8 0w 0 S
R Q 1979 1980 3 Sun>=15 0w 3600 D
R Q 1981 1985 5 Sun>=5 0w 3600 D
R Q 1986 1989 3 Sun>=14 0w 3600 D
R Q 1990 1997 4 Sun>=1 0w 3600 D
R Q 1991 1995 10 Sun>=8 0s 0 S
R Q 1996 1996 10 6 0s 0 S
R Q 1997 1997 10 12 0s 0 S
R Q 1998 1999 3 lastSun 0s 3600 D
R Q 1998 2003 10 lastSun 0s 0 S
R Q 2000 2003 4 Sun>=1 0s 3600 D
R Q 2004 2004 3 lastSun 0s 3600 D
R Q 2006 2010 10 lastSun 0s 0 S
R Q 2007 2007 3 Sun>=8 0s 3600 D
R Q 2008 2008 3 Sun>=15 0s 3600 D
R Q 2009 2010 3 Sun>=8 0s 3600 D
R Q 2011 2011 3 Sun>=15 0s 3600 D
R Q 2011 2011 11 13 0s 0 S
R Q 2012 2012 4 1 0s 3600 D
R Q 2012 max 11 Sun>=1 0s 0 S
R Q 2013 max 3 Sun>=8 0s 3600 D
R DO 1966 1966 10 30 0w 3600 EDT
R DO 1967 1967 2 28 0w 0 EST
R DO 1969 1973 10 lastSun 0w 1800 -0430
R DO 1970 1970 2 21 0w 0 EST
R DO 1971 1971 1 20 0w 0 EST
R DO 1972 1974 1 21 0w 0 EST
R SV 1987 1988 5 Sun>=1 0w 3600 D
R SV 1987 1988 9 lastSun 0w 0 S
R GT 1973 1973 11 25 0w 3600 D
R GT 1974 1974 2 24 0w 0 S
R GT 1983 1983 5 21 0w 3600 D
R GT 1983 1983 9 22 0w 0 S
R GT 1991 1991 3 23 0w 3600 D
R GT 1991 1991 9 7 0w 0 S
R GT 2006 2006 4 30 0w 3600 D
R GT 2006 2006 10 1 0w 0 S
R HT 1983 1983 5 8 0w 3600 D
R HT 1984 1987 4 lastSun 0w 3600 D
R HT 1983 1987 10 lastSun 0w 0 S
R HT 1988 1997 4 Sun>=1 3600s 3600 D
R HT 1988 1997 10 lastSun 3600s 0 S
R HT 2005 2006 4 Sun>=1 0w 3600 D
R HT 2005 2006 10 lastSun 0w 0 S
R HT 2012 2015 3 Sun>=8 7200w 3600 D
R HT 2012 2015 11 Sun>=1 7200w 0 S
R HT 2017 max 3 Sun>=8 7200w 3600 D
R HT 2017 max 11 Sun>=1 7200w 0 S
R HN 1987 1988 5 Sun>=1 0w 3600 D
R HN 1987 1988 9 lastSun 0w 0 S
R HN 2006 2006 5 Sun>=1 0w 3600 D
R HN 2006 2006 8 Mon>=1 0w 0 S
R NI 1979 1980 3 Sun>=16 0w 3600 D
R NI 1979 1980 6 Mon>=23 0w 0 S
R NI 2005 2005 4 10 0w 3600 D
R NI 2005 2005 10 Sun>=1 0w 0 S
R NI 2006 2006 4 30 7200w 3600 D
R NI 2006 2006 10 Sun>=1 3600w 0 S
R A 1930 1930 12 1 0w 3600 -
R A 1931 1931 4 1 0w 0 -
R A 1931 1931 10 15 0w 3600 -
R A 1932 1940 3 1 0w 0 -
R A 1932 1939 11 1 0w 3600 -
R A 1940 1940 7 1 0w 3600 -
R A 1941 1941 6 15 0w 0 -
R A 1941 1941 10 15 0w 3600 -
R A 1943 1943 8 1 0w 0 -
R A 1943 1943 10 15 0w 3600 -
R A 1946 1946 3 1 0w 0 -
R A 1946 1946 10 1 0w 3600 -
R A 1963 1963 10 1 0w 0 -
R A 1963 1963 12 15 0w 3600 -
R A 1964 1966 3 1 0w 0 -
R A 1964 1966 10 15 0w 3600 -
R A 1967 1967 4 2 0w 0 -
R A 1967 1968 10 Sun>=1 0w 3600 -
R A 1968 1969 4 Sun>=1 0w 0 -
R A 1974 1974 1 23 0w 3600 -
R A 1974 1974 5 1 0w 0 -
R A 1988 1988 12 1 0w 3600 -
R A 1989 1993 3 Sun>=1 0w 0 -
R A 1989 1992 10 Sun>=15 0w 3600 -
R A 1999 1999 10 Sun>=1 0w 3600 -
R A 2000 2000 3 3 0w 0 -
R A 2007 2007 12 30 0w 3600 -
R A 2008 2009 3 Sun>=15 0w 0 -
R A 2008 2008 10 Sun>=15 0w 3600 -
R Sa 2008 2009 3 Sun>=8 0w 0 -
R Sa 2007 2008 10 Sun>=8 0w 3600 -
R B 1931 1931 10 3 39600w 3600 -
R B 1932 1933 4 1 0w 0 -
R B 1932 1932 10 3 0w 3600 -
R B 1949 1952 12 1 0w 3600 -
R B 1950 1950 4 16 3600w 0 -
R B 1951 1952 4 1 0w 0 -
R B 1953 1953 3 1 0w 0 -
R B 1963 1963 12 9 0w 3600 -
R B 1964 1964 3 1 0w 0 -
R B 1965 1965 1 31 0w 3600 -
R B 1965 1965 3 31 0w 0 -
R B 1965 1965 12 1 0w 3600 -
R B 1966 1968 3 1 0w 0 -
R B 1966 1967 11 1 0w 3600 -
R B 1985 1985 11 2 0w 3600 -
R B 1986 1986 3 15 0w 0 -
R B 1986 1986 10 25 0w 3600 -
R B 1987 1987 2 14 0w 0 -
R B 1987 1987 10 25 0w 3600 -
R B 1988 1988 2 7 0w 0 -
R B 1988 1988 10 16 0w 3600 -
R B 1989 1989 1 29 0w 0 -
R B 1989 1989 10 15 0w 3600 -
R B 1990 1990 2 11 0w 0 -
R B 1990 1990 10 21 0w 3600 -
R B 1991 1991 2 17 0w 0 -
R B 1991 1991 10 20 0w 3600 -
R B 1992 1992 2 9 0w 0 -
R B 1992 1992 10 25 0w 3600 -
R B 1993 1993 1 31 0w 0 -
R B 1993 1995 10 Sun>=11 0w 3600 -
R B 1994 1995 2 Sun>=15 0w 0 -
R B 1996 1996 2 11 0w 0 -
R B 1996 1996 10 6 0w 3600 -
R B 1997 1997 2 16 0w 0 -
R B 1997 1997 10 6 0w 3600 -
R B 1998 1998 3 1 0w 0 -
R B 1998 1998 10 11 0w 3600 -
R B 1999 1999 2 21 0w 0 -
R B 1999 1999 10 3 0w 3600 -
R B 2000 2000 2 27 0w 0 -
R B 2000 2001 10 Sun>=8 0w 3600 -
R B 2001 2006 2 Sun>=15 0w 0 -
R B 2002 2002 11 3 0w 3600 -
R B 2003 2003 10 19 0w 3600 -
R B 2004 2004 11 2 0w 3600 -
R B 2005 2005 10 16 0w 3600 -
R B 2006 2006 11 5 0w 3600 -
R B 2007 2007 2 25 0w 0 -
R B 2007 2007 10 Sun>=8 0w 3600 -
R B 2008 2017 10 Sun>=15 0w 3600 -
R B 2008 2011 2 Sun>=15 0w 0 -
R B 2012 2012 2 Sun>=22 0w 0 -
R B 2013 2014 2 Sun>=15 0w 0 -
R B 2015 2015 2 Sun>=22 0w 0 -
R B 2016 2019 2 Sun>=15 0w 0 -
R B 2018 2018 11 Sun>=1 0w 3600 -
R x 1927 1931 9 1 0w 3600 -
R x 1928 1932 4 1 0w 0 -
R x 1968 1968 11 3 14400u 3600 -
R x 1969 1969 3 30 10800u 0 -
R x 1969 1969 11 23 14400u 3600 -
R x 1970 1970 3 29 10800u 0 -
R x 1971 1971 3 14 10800u 0 -
R x 1970 1972 10 Sun>=9 14400u 3600 -
R x 1972 1986 3 Sun>=9 10800u 0 -
R x 1973 1973 9 30 14400u 3600 -
R x 1974 1987 10 Sun>=9 14400u 3600 -
R x 1987 1987 4 12 10800u 0 -
R x 1988 1990 3 Sun>=9 10800u 0 -
R x 1988 1989 10 Sun>=9 14400u 3600 -
R x 1990 1990 9 16 14400u 3600 -
R x 1991 1996 3 Sun>=9 10800u 0 -
R x 1991 1997 10 Sun>=9 14400u 3600 -
R x 1997 1997 3 30 10800u 0 -
R x 1998 1998 3 Sun>=9 10800u 0 -
R x 1998 1998 9 27 14400u 3600 -
R x 1999 1999 4 4 10800u 0 -
R x 1999 2010 10 Sun>=9 14400u 3600 -
R x 2000 2007 3 Sun>=9 10800u 0 -
R x 2008 2008 3 30 10800u 0 -
R x 2009 2009 3 Sun>=9 10800u 0 -
R x 2010 2010 4 Sun>=1 10800u 0 -
R x 2011 2011 5 Sun>=2 10800u 0 -
R x 2011 2011 8 Sun>=16 14400u 3600 -
R x 2012 2014 4 Sun>=23 10800u 0 -
R x 2012 2014 9 Sun>=2 14400u 3600 -
R x 2016 2018 5 Sun>=9 10800u 0 -
R x 2016 2018 8 Sun>=9 14400u 3600 -
R x 2019 max 4 Sun>=2 10800u 0 -
R x 2019 2021 9 Sun>=2 14400u 3600 -
R x 2022 2022 9 Sun>=9 14400u 3600 -
R x 2023 max 9 Sun>=2 14400u 3600 -
R CO 1992 1992 5 3 0w 3600 -
R CO 1993 1993 2 6 86400w 0 -
R EC 1992 1992 11 28 0w 3600 -
R EC 1993 1993 2 5 0w 0 -
R FK 1937 1938 9 lastSun 0w 3600 -
R FK 1938 1942 3 Sun>=19 0w 0 -
R FK 1939 1939 10 1 0w 3600 -
R FK 1940 1942 9 lastSun 0w 3600 -
R FK 1943 1943 1 1 0w 0 -
R FK 1983 1983 9 lastSun 0w 3600 -
R FK 1984 1985 4 lastSun 0w 0 -
R FK 1984 1984 9 16 0w 3600 -
R FK 1985 2000 9 Sun>=9 0w 3600 -
R FK 1986 2000 4 Sun>=16 0w 0 -
R FK 2001 2010 4 Sun>=15 7200w 0 -
R FK 2001 2010 9 Sun>=1 7200w 3600 -
R y 1975 1988 10 1 0w 3600 -
R y 1975 1978 3 1 0w 0 -
R y 1979 1991 4 1 0w 0 -
R y 1989 1989 10 22 0w 3600 -
R y 1990 1990 10 1 0w 3600 -
R y 1991 1991 10 6 0w 3600 -
R y 1992 1992 3 1 0w 0 -
R y 1992 1992 10 5 0w 3600 -
R y 1993 1993 3 31 0w 0 -
R y 1993 1995 10 1 0w 3600 -
R y 1994 1995 2 lastSun 0w 0 -
R y 1996 1996 3 1 0w 0 -
R y 1996 2001 10 Sun>=1 0w 3600 -
R y 1997 1997 2 lastSun 0w 0 -
R y 1998 2001 3 Sun>=1 0w 0 -
R y 2002 2004 4 Sun>=1 0w 0 -
R y 2002 2003 9 Sun>=1 0w 3600 -
R y 2004 2009 10 Sun>=15 0w 3600 -
R y 2005 2009 3 Sun>=8 0w 0 -
R y 2010 max 10 Sun>=1 0w 3600 -
R y 2010 2012 4 Sun>=8 0w 0 -
R y 2013 max 3 Sun>=22 0w 0 -
R PE 1938 1938 1 1 0w 3600 -
R PE 1938 1938 4 1 0w 0 -
R PE 1938 1939 9 lastSun 0w 3600 -
R PE 1939 1940 3 Sun>=24 0w 0 -
R PE 1986 1987 1 1 0w 3600 -
R PE 1986 1987 4 1 0w 0 -
R PE 1990 1990 1 1 0w 3600 -
R PE 1990 1990 4 1 0w 0 -
R PE 1994 1994 1 1 0w 3600 -
R PE 1994 1994 4 1 0w 0 -
R U 1923 1925 10 1 0w 1800 -
R U 1924 1926 4 1 0w 0 -
R U 1933 1938 10 lastSun 0w 1800 -
R U 1934 1941 3 lastSat 86400w 0 -
R U 1939 1939 10 1 0w 1800 -
R U 1940 1940 10 27 0w 1800 -
R U 1941 1941 8 1 0w 1800 -
R U 1942 1942 12 14 0w 1800 -
R U 1943 1943 3 14 0w 0 -
R U 1959 1959 5 24 0w 1800 -
R U 1959 1959 11 15 0w 0 -
R U 1960 1960 1 17 0w 3600 -
R U 1960 1960 3 6 0w 0 -
R U 1965 1965 4 4 0w 3600 -
R U 1965 1965 9 26 0w 0 -
R U 1968 1968 5 27 0w 1800 -
R U 1968 1968 12 1 0w 0 -
R U 1970 1970 4 25 0w 3600 -
R U 1970 1970 6 14 0w 0 -
R U 1972 1972 4 23 0w 3600 -
R U 1972 1972 7 16 0w 0 -
R U 1974 1974 1 13 0w 5400 -
R U 1974 1974 3 10 0w 1800 -
R U 1974 1974 9 1 0w 0 -
R U 1974 1974 12 22 0w 3600 -
R U 1975 1975 3 30 0w 0 -
R U 1976 1976 12 19 0w 3600 -
R U 1977 1977 3 6 0w 0 -
R U 1977 1977 12 4 0w 3600 -
R U 1978 1979 3 Sun>=1 0w 0 -
R U 1978 1978 12 17 0w 3600 -
R U 1979 1979 4 29 0w 3600 -
R U 1980 1980 3 16 0w 0 -
R U 1987 1987 12 14 0w 3600 -
R U 1988 1988 2 28 0w 0 -
R U 1988 1988 12 11 0w 3600 -
R U 1989 1989 3 5 0w 0 -
R U 1989 1989 10 29 0w 3600 -
R U 1990 1990 2 25 0w 0 -
R U 1990 1991 10 Sun>=21 0w 3600 -
R U 1991 1992 3 Sun>=1 0w 0 -
R U 1992 1992 10 18 0w 3600 -
R U 1993 1993 2 28 0w 0 -
R U 2004 2004 9 19 0w 3600 -
R U 2005 2005 3 27 7200w 0 -
R U 2005 2005 10 9 7200w 3600 -
R U 2006 2015 3 Sun>=8 7200w 0 -
R U 2006 2014 10 Sun>=1 7200w 3600 -
R m 1931 1931 5 1 82800w 3600 D
R m 1931 1931 10 1 0w 0 S
R m 1939 1939 2 5 0w 3600 D
R m 1939 1939 6 25 0w 0 S
R m 1940 1940 12 9 0w 3600 D
R m 1941 1941 4 1 0w 0 S
R m 1943 1943 12 16 0w 3600 W
R m 1944 1944 5 1 0w 0 S
R m 1950 1950 2 12 0w 3600 D
R m 1950 1950 7 30 0w 0 S
R m 1996 2000 4 Sun>=1 7200w 3600 D
R m 1996 2000 10 lastSun 7200w 0 S
R m 2001 2001 5 Sun>=1 7200w 3600 D
R m 2001 2001 9 lastSun 7200w 0 S
R m 2002 2022 4 Sun>=1 7200w 3600 D
R m 2002 2022 10 lastSun 7200w 0 S
R p 1916 1916 6 17 82800w 3600 S
R p 1916 1916 11 1 3600w 0 -
R p 1917 1917 2 28 82800s 3600 S
R p 1917 1921 10 14 82800s 0 -
R p 1918 1918 3 1 82800s 3600 S
R p 1919 1919 2 28 82800s 3600 S
R p 1920 1920 2 29 82800s 3600 S
R p 1921 1921 2 28 82800s 3600 S
R p 1924 1924 4 16 82800s 3600 S
R p 1924 1924 10 14 82800s 0 -
R p 1926 1926 4 17 82800s 3600 S
R p 1926 1929 10 Sat>=1 82800s 0 -
R p 1927 1927 4 9 82800s 3600 S
R p 1928 1928 4 14 82800s 3600 S
R p 1929 1929 4 20 82800s 3600 S
R p 1931 1931 4 18 82800s 3600 S
R p 1931 1932 10 Sat>=1 82800s 0 -
R p 1932 1932 4 2 82800s 3600 S
R p 1934 1934 4 7 82800s 3600 S
R p 1934 1938 10 Sat>=1 82800s 0 -
R p 1935 1935 3 30 82800s 3600 S
R p 1936 1936 4 18 82800s 3600 S
R p 1937 1937 4 3 82800s 3600 S
R p 1938 1938 3 26 82800s 3600 S
R p 1939 1939 4 15 82800s 3600 S
R p 1939 1939 11 18 82800s 0 -
R p 1940 1940 2 24 82800s 3600 S
R p 1940 1941 10 5 82800s 0 -
R p 1941 1941 4 5 82800s 3600 S
R p 1942 1945 3 Sat>=8 82800s 3600 S
R p 1942 1942 4 25 79200s 7200 M
R p 1942 1942 8 15 79200s 3600 S
R p 1942 1945 10 Sat>=24 82800s 0 -
R p 1943 1943 4 17 79200s 7200 M
R p 1943 1945 8 Sat>=25 79200s 3600 S
R p 1944 1945 4 Sat>=21 79200s 7200 M
R p 1946 1946 4 Sat>=1 82800s 3600 S
R p 1946 1946 10 Sat>=1 82800s 0 -
R p 1947 1965 4 Sun>=1 7200s 3600 S
R p 1947 1965 10 Sun>=1 7200s 0 -
R p 1977 1977 3 27 0s 3600 S
R p 1977 1977 9 25 0s 0 -
R p 1978 1979 4 Sun>=1 0s 3600 S
R p 1978 1978 10 1 0s 0 -
R p 1979 1982 9 lastSun 3600s 0 -
R p 1980 1980 3 lastSun 0s 3600 S
R p 1981 1982 3 lastSun 3600s 3600 S
R p 1983 1983 3 lastSun 7200s 3600 S
R PH 1936 1936 11 1 0w 3600 D
R PH 1937 1937 2 1 0w 0 S
R PH 1954 1954 4 12 0w 3600 D
R PH 1954 1954 7 1 0w 0 S
R PH 1978 1978 3 22 0w 3600 D
R PH 1978 1978 9 21 0w 0 S
R Eire 1971 1971 10 31 7200u -3600 -
R Eire 1972 1980 3 Sun>=16 7200u 0 -
R Eire 1972 1980 10 Sun>=23 7200u -3600 -
R Eire 1981 max 3 lastSun 3600u 0 -
R Eire 1981 1989 10 Sun>=23 3600u -3600 -
R Eire 1990 1995 10 Sun>=22 3600u -3600 -
R Eire 1996 max 10 lastSun 3600u -3600 -
Z Africa/Abidjan
P -968 - LMT 1912
P 0 - GMT
Z Africa/Algiers
P 732 - LMT 1891 3 16
P 561 - PMT 1911 3 11
P 0 d WE%sT 1940 2 25 7200w
P 3600 d CE%sT 1946 10 7
P 0 - WET 1956 1 29
P 3600 - CET 1963 4 14
P 0 d WE%sT 1977 10 21
P 3600 d CE%sT 1979 10 26
P 0 d WE%sT 1981 5
P 3600 - CET
Z Africa/Bissau
P -3740 - LMT 1912 1 1 3600u
P -3600 - -01 1975
P 0 - GMT
Z Africa/Cairo
P 7509 - LMT 1900 10
P 7200 K EE%sT
Z Africa/Casablanca
P -1820 - LMT 1913 10 26
P 0 M +00/+01 1984 3 16
P 3600 - +01 1986
P 0 M +00/+01 2018 10 28 10800w
P 0 M +00/+01
Z Africa/Ceuta
P -1276 - LMT 1901 1 1 0u
P 0 - WET 1918 5 6 82800w
P 0 :3600 WEST 1918 10 7 82800w
P 0 - WET 1924
P 0 s WE%sT 1929
P 0 - WET 1967
P 0 Sp WE%sT 1984 3 16
P 3600 - CET 1986
P 3600 E CE%sT
Z Africa/El_Aaiun
P -3168 - LMT 1934
P -3600 - -01 1976 4 14
P 0 M +00/+01 2018 10 28 10800w
P 0 M +00/+01
Z Africa/Johannesburg
P 6720 - LMT 1892 2 8
P 5400 - SAST 1903 3
P 7200 SA SAST
Z Africa/Juba
P 7588 - LMT 1931
P 7200 SD CA%sT 2000 1 15 43200w
P 10800 - EAT 2021 2
P 7200 - CAT
Z Africa/Khartoum
P 7808 - LMT 1931
P 7200 SD CA%sT 2000 1 15 43200w
P 10800 - EAT 2017 11
P 7200 - CAT
Z Africa/Lagos
P 815 - LMT 1905 7
P 0 - GMT 1908 7
P 815 - LMT 1914
P 1800 - +0030 1919 9
P 3600 - WAT
Z Africa/Maputo
P 7820 - LMT 1903 3
P 7200 - CAT
Z Africa/Monrovia
P -2588 - LMT 1882
P -2588 - MMT 1919 3
P -2670 - MMT 1972 1 7
P 0 - GMT
Z Africa/Nairobi
P 8836 - LMT 1908 5
P 9000 - +0230 1928 6 30 86400w
P 10800 - EAT 1930 1 4 86400w
P 9000 - +0230 1936 12 31 86400w
P 9900 - +0245 1942 7 31 86400w
P 10800 - EAT
Z Africa/Ndjamena
P 3612 - LMT 1912
P 3600 - WAT 1979 10 14
P 3600 :3600 WAST 1980 3 8
P 3600 - WAT
Z Africa/Sao_Tome
P 1616 - LMT 1884
P -2205 - LMT 1912 1 1 0u
P 0 - GMT 2018 1 1 3600w
P 3600 - WAT 2019 1 1 7200w
P 0 - GMT
Z Africa/Tripoli
P 3164 - LMT 1920
P 3600 L CE%sT 1959
P 7200 - EET 1982
P 3600 L CE%sT 1990 5 4
P 7200 - EET 1996 9 30
P 3600 L CE%sT 1997 10 4
P 7200 - EET 2012 11 10 7200w
P 3600 L CE%sT 2013 10 25 7200w
P 7200 - EET
Z Africa/Tunis
P 2444 - LMT 1881 5 12
P 561 - PMT 1911 3 11
P 3600 n CE%sT
Z Africa/Windhoek
P 4104 - LMT 1892 2 8
P 5400 - +0130 1903 3
P 7200 - SAST 1942 9 20 7200w
P 7200 :3600 SAST 1943 3 21 7200w
P 7200 - SAST 1990 3 21
P 7200 - CAT 1994 3 21
P 3600 NA %s 2017 10 24
P 7200 - CAT
Z America/Adak
P 44002 - LMT 1867 10 19 45875w
P -42398 - LMT 1900 8 20 43200w
P -39600 - NST 1942
P -39600 u N%sT 1946
P -39600 - NST 1967 4
P -39600 - BST 1969
P -39600 u B%sT 1983 10 30 7200w
P -36000 u AH%sT 1983 11 30
P -36000 u H%sT
Z America/Anchorage
P 50424 - LMT 1867 10 19 52297w
P -35976 - LMT 1900 8 20 43200w
P -36000 - AST 1942
P -36000 u A%sT 1967 4
P -36000 - AHST 1969
P -36000 u AH%sT 1983 10 30 7200w
P -32400 u Y%sT 1983 11 30
P -32400 u AK%sT
Z America/Araguaina
P -11568 - LMT 1914
P -10800 B -03/-02 1990 9 17
P -10800 - -03 1995 9 14
P -10800 B -03/-02 2003 9 24
P -10800 - -03 2012 10 21
P -10800 B -03/-02 2013 9
P -10800 - -03
Z America/Argentina/Buenos_Aires
P -14028 - LMT 1894 10 31
P -15408 - CMT 1920 5
P -14400 - -04 1930 12
P -14400 A -04/-03 1969 10 5
P -10800 A -03/-02 1999 10 3
P -14400 A -04/-03 2000 3 3
P -10800 A -03/-02
Z America/Argentina/Catamarca
P -15788 - LMT 1894 10 31
P -15408 - CMT 1920 5
P -14400 - -04 1930 12
P -14400 A -04/-03 1969 10 5
P -10800 A -03/-02 1991 3 3
P -14400 - -04 1991 10 20
P -10800 A -03/-02 1999 10 3
P -14400 A -04/-03 2000 3 3
P -10800 - -03 2004 6
P -14400 - -04 2004 6 20
P -10800 A -03/-02 2008 10 18
P -10800 - -03
Z America/Argentina/Cordoba
P -15408 - LMT 1894 10 31
P -15408 - CMT 1920 5
P -14400 - -04 1930 12
P -14400 A -04/-03 1969 10 5
P -10800 A -03/-02 1991 3 3
P -14400 - -04 1991 10 20
P -10800 A -03/-02 1999 10 3
P -14400 A -04/-03 2000 3 3
P -10800 A -03/-02
Z America/Argentina/Jujuy
P -15672 - LMT 1894 10 31
P -15408 - CMT 1920 5
P -14400 - -04 1930 12
P -14400 A -04/-03 1969 10 5
P -10800 A -03/-02 1990 3 4
P -14400 - -04 1990 10 28
P -14400 :3600 -03 1991 3 17
P -14400 - -04 1991 10 6
P -10800 :3600 -02 1992
P -10800 A -03/-02 1999 10 3
P -14400 A -04/-03 2000 3 3
P -10800 A -03/-02 2008 10 18
P -10800 - -03
Z America/Argentina/La_Rioja
P -16044 - LMT 1894 10 31
P -15408 - CMT 1920 5
P -14400 - -04 1930 12
P -14400 A -04/-03 1969 10 5
P -10800 A -03/-02 1991 3
P -14400 - -04 1991 5 7
P -10800 A -03/-02 1999 10 3
P -14400 A -04/-03 2000 3 3
P -10800 - -03 2004 6
P -14400 - -04 2004 6 20
P -10800 A -03/-02 2008 10 18
P -10800 - -03
Z America/Argentina/Mendoza
P -16516 - LMT 1894 10 31
P -15408 - CMT 1920 5
P -14400 - -04 1930 12
P -14400 A -04/-03 1969 10 5
P -10800 A -03/-02 1990 3 4
P -14400 - -04 1990 10 15
P -14400 :3600 -03 1991 3
P -14400 - -04 1991 10 15
P -14400 :3600 -03 1992 3
P -14400 - -04 1992 10 18
P -10800 A -03/-02 1999 10 3
P -14400 A -04/-03 2000 3 3
P -10800 - -03 2004 5 23
P -14400 - -04 2004 9 26
P -10800 A -03/-02 2008 10 18
P -10800 - -03
Z America/Argentina/Rio_Gallegos
P -16612 - LMT 1894 10 31
P -15408 - CMT 1920 5
P -14400 - -04 1930 12
P -14400 A -04/-03 1969 10 5
P -10800 A -03/-02 1999 10 3
P -14400 A -04/-03 2000 3 3
P -10800 - -03 2004 6
P -14400 - -04 2004 6 20
P -10800 A -03/-02 2008 10 18
P -10800 - -03
Z America/Argentina/Salta
P -15700 - LMT 1894 10 31
P -15408 - CMT 1920 5
P -14400 - -04 1930 12
P -14400 A -04/-03 1969 10 5
P -10800 A -03/-02 1991 3 3
P -14400 - -04 1991 10 20
P -10800 A -03/-02 1999 10 3
P -14400 A -04/-03 2000 3 3
P -10800 A -03/-02 2008 10 18
P -10800 - -03
Z America/Argentina/San_Juan
P -16444 - LMT 1894 10 31
P -15408 - CMT 1920 5
P -14400 - -04 1930 12
P -14400 A -04/-03 1969 10 5
P -10800 A -03/-02 1991 3
P -14400 - -04 1991 5 7
P -10800 A -03/-02 1999 10 3
P -14400 A -04/-03 2000 3 3
P -10800 - -03 2004 5 31
P -14400 - -04 2004 7 25
P -10800 A -03/-02 2008 10 18
P -10800 - -03
Z America/Argentina/San_Luis
P -15924 - LMT 1894 10 31
P -15408 - CMT 1920 5
P -14400 - -04 1930 12
P -14400 A -04/-03 1969 10 5
P -10800 A -03/-02 1990
P -10800 :3600 -02 1990 3 14
P -14400 - -04 1990 10 15
P -14400 :3600 -03 1991 3
P -14400 - -04 1991 6
P -10800 - -03 1999 10 3
P -14400 :3600 -03 2000 3 3
P -10800 - -03 2004 5 31
P -14400 - -04 2004 7 25
P -10800 A -03/-02 2008 1 21
P -14400 Sa -04/-03 2009 10 11
P -10800 - -03
Z America/Argentina/Tucuman
P -15652 - LMT 1894 10 31
P -15408 - CMT 1920 5
P -14400 - -04 1930 12
P -14400 A -04/-03 1969 10 5
P -10800 A -03/-02 1991 3 3
P -14400 - -04 1991 10 20
P -10800 A -03/-02 1999 10 3
P -14400 A -04/-03 2000 3 3
P -10800 - -03 2004 6
P -14400 - -04 2004 6 13
P -10800 A -03/-02
Z America/Argentina/Ushuaia
P -16392 - LMT 1894 10 31
P -15408 - CMT 1920 5
P -14400 - -04 1930 12
P -14400 A -04/-03 1969 10 5
P -10800 A -03/-02 1999 10 3
P -14400 A -04/-03 2000 3 3
P -10800 - -03 2004 5 30
P -14400 - -04 2004 6 20
P -10800 A -03/-02 2008 10 18
P -10800 - -03
Z America/Asuncion
P -13840 - LMT 1890
P -13840 - AMT 1931 10 10
P -14400 - -04 1972 10
P -10800 - -03 1974 4
P -14400 y -04/-03
Z America/Bahia
P -9244 - LMT 1914
P -10800 B -03/-02 2003 9 24
P -10800 - -03 2011 10 16
P -10800 B -03/-02 2012 10 21
P -10800 - -03
Z America/Bahia_Banderas
P -25260 - LMT 1922 1 1 25200u
P -25200 - MST 1927 6 10 82800w
P -21600 - CST 1930 11 15
P -25200 m M%sT 1932 4
P -21600 - CST 1942 4 24
P -25200 - MST 1949 1 14
P -28800 - PST 1970
P -25200 m M%sT 2010 4 4 7200w
P -21600 m C%sT
Z America/Barbados
P -14309 - LMT 1911 8 28
P -14400 BB A%sT 1944
P -14400 BB AST/-0330 1945
P -14400 BB A%sT
Z America/Belem
P -11636 - LMT 1914
P -10800 B -03/-02 1988 9 12
P -10800 - -03
Z America/Belize
P -21168 - LMT 1912 4
P -21600 BZ %s
Z America/Boa_Vista
P -14560 - LMT 1914
P -14400 B -04/-03 1988 9 12
P -14400 - -04 1999 9 30
P -14400 B -04/-03 2000 10 15
P -14400 - -04
Z America/Bogota
P -17776 - LMT 1884 3 13
P -17776 - BMT 1914 11 23
P -18000 CO -05/-04
Z America/Boise
P -27889 - LMT 1883 11 18 72000u
P -28800 u P%sT 1923 5 13 7200w
P -25200 u M%sT 1974
P -25200 - MST 1974 2 3 7200w
P -25200 u M%sT
Z America/Cambridge_Bay
P 0 - -00 1920
P -25200 Y M%sT 1999 10 31 7200w
P -21600 C C%sT 2000 10 29 7200w
P -18000 - EST 2000 11 5
P -21600 - CST 2001 4 1 10800w
P -25200 C M%sT
Z America/Campo_Grande
P -13108 - LMT 1914
P -14400 B -04/-03
Z America/Cancun
P -20824 - LMT 1922 1 1 21600u
P -21600 - CST 1981 12 23
P -18000 m E%sT 1998 8 2 7200w
P -21600 m C%sT 2015 2 1 7200w
P -18000 - EST
Z America/Caracas
P -16064 - LMT 1890
P -16060 - CMT 1912 2 12
P -16200 - -0430 1965
P -14400 - -04 2007 12 9 10800w
P -16200 - -0430 2016 5 1 9000w
P -14400 - -04
Z America/Cayenne
P -12560 - LMT 1911 7
P -14400 - -04 1967 10
P -10800 - -03
Z America/Chicago
P -21036 - LMT 1883 11 18 64800u
P -21600 u C%sT 1920
P -21600 Ch C%sT 1936 3 1 7200w
P -18000 - EST 1936 11 15 7200w
P -21600 Ch C%sT 1942
P -21600 u C%sT 1946
P -21600 Ch C%sT 1967
P -21600 u C%sT
Z America/Chihuahua
P -25460 - LMT 1922 1 1 25200u
P -25200 - MST 1927 6 10 82800w
P -21600 - CST 1930 11 15
P -25200 m M%sT 1932 4
P -21600 - CST 1996
P -21600 m C%sT 1998
P -21600 - CST 1998 4 Sun>=1 10800w
P -25200 m M%sT 2022 10 30 7200w
P -21600 - CST
Z America/Ciudad_Juarez
P -25556 - LMT 1922 1 1 25200u
P -25200 - MST 1927 6 10 82800w
P -21600 - CST 1930 11 15
P -25200 m M%sT 1932 4
P -21600 - CST 1996
P -21600 m C%sT 1998
P -21600 - CST 1998 4 Sun>=1 10800w
P -25200 m M%sT 2010
P -25200 u M%sT 2022 10 30 7200w
P -21600 - CST 2022 11 30
P -25200 u M%sT
Z America/Costa_Rica
P -20173 - LMT 1890
P -20173 - SJMT 1921 1 15
P -21600 CR C%sT
Z America/Cuiaba
P -13460 - LMT 1914
P -14400 B -04/-03 2003 9 24
P -14400 - -04 2004 10
P -14400 B -04/-03
Z America/Danmarkshavn
P -4480 - LMT 1916 7 28
P -10800 - -03 1980 4 6 7200w
P -10800 E -03/-02 1996
P 0 - GMT
Z America/Dawson
P -33460 - LMT 1900 8 20
P -32400 Y Y%sT 1965
P -32400 Yu Y%sT 1973 10 28
P -28800 - PST 1980
P -28800 C P%sT 2020 11
P -25200 - MST
Z America/Dawson_Creek
P -28856 - LMT 1884
P -28800 C P%sT 1947
P -28800 Va P%sT 1972 8 30 7200w
P -25200 - MST
Z America/Denver
P -25196 - LMT 1883 11 18 68400u
P -25200 u M%sT 1920
P -25200 De M%sT 1942
P -25200 u M%sT 1946
P -25200 De M%sT 1967
P -25200 u M%sT
Z America/Detroit
P -19931 - LMT 1905
P -21600 - CST 1915 5 15 7200w
P -18000 - EST 1942
P -18000 u E%sT 1946
P -18000 Dt E%sT 1967 6 14 60w
P -18000 u E%sT 1969
P -18000 - EST 1973
P -18000 u E%sT 1975
P -18000 - EST 1975 4 27 7200w
P -18000 u E%sT
Z America/Edmonton
P -27232 - LMT 1906 9
P -25200 Ed M%sT 1987
P -25200 C M%sT
Z America/Eirunepe
P -16768 - LMT 1914
P -18000 B -05/-04 1988 9 12
P -18000 - -05 1993 9 28
P -18000 B -05/-04 1994 9 22
P -18000 - -05 2008 6 24
P -14400 - -04 2013 11 10
P -18000 - -05
Z America/El_Salvador
P -21408 - LMT 1921
P -21600 SV C%sT
Z America/Fort_Nelson
P -29447 - LMT 1884
P -28800 Va P%sT 1946
P -28800 - PST 1947
P -28800 Va P%sT 1987
P -28800 C P%sT 2015 3 8 7200w
P -25200 - MST
Z America/Fortaleza
P -9240 - LMT 1914
P -10800 B -03/-02 1990 9 17
P -10800 - -03 1999 9 30
P -10800 B -03/-02 2000 10 22
P -10800 - -03 2001 9 13
P -10800 B -03/-02 2002 10
P -10800 - -03
Z America/Glace_Bay
P -14388 - LMT 1902 6 15
P -14400 C A%sT 1953
P -14400 H A%sT 1954
P -14400 - AST 1972
P -14400 H A%sT 1974
P -14400 C A%sT
Z America/Goose_Bay
P -14500 - LMT 1884
P -12652 - NST 1918
P -12652 C N%sT 1919
P -12652 - NST 1935 3 30
P -12600 - NST 1936
P -12600 j N%sT 1942 5 11
P -12600 C N%sT 1946
P -12600 j N%sT 1966 3 15 7200w
P -14400 j A%sT 2011 11
P -14400 C A%sT
Z America/Grand_Turk
P -17072 - LMT 1890
P -18430 - KMT 1912 2
P -18000 - EST 1979
P -18000 u E%sT 2015 3 8 7200w
P -14400 - AST 2018 3 11 10800w
P -18000 u E%sT
Z America/Guatemala
P -21724 - LMT 1918 10 5
P -21600 GT C%sT
Z America/Guayaquil
P -19160 - LMT 1890
P -18840 - QMT 1931
P -18000 EC -05/-04
Z America/Guyana
P -13959 - LMT 1911 8
P -14400 - -04 1915 3
P -13500 - -0345 1975 8
P -10800 - -03 1992 3 29 3600w
P -14400 - -04
Z America/Halifax
P -15264 - LMT 1902 6 15
P -14400 H A%sT 1918
P -14400 C A%sT 1919
P -14400 H A%sT 1942 2 9 7200s
P -14400 C A%sT 1946
P -14400 H A%sT 1974
P -14400 C A%sT
Z America/Havana
P -19768 - LMT 1890
P -19776 - HMT 1925 7 19 43200w
P -18000 Q C%sT
Z America/Hermosillo
P -26632 - LMT 1922 1 1 25200u
P -25200 - MST 1927 6 10 82800w
P -21600 - CST 1930 11 15
P -25200 m M%sT 1932 4
P -21600 - CST 1942 4 24
P -25200 - MST 1949 1 14
P -28800 - PST 1970
P -25200 m M%sT 1999
P -25200 - MST
Z America/Indiana/Indianapolis
P -20678 - LMT 1883 11 18 64800u
P -21600 u C%sT 1920
P -21600 In C%sT 1942
P -21600 u C%sT 1946
P -21600 In C%sT 1955 4 24 7200w
P -18000 - EST 1957 9 29 7200w
P -21600 - CST 1958 4 27 7200w
P -18000 - EST 1969
P -18000 u E%sT 1971
P -18000 - EST 2006
P -18000 u E%sT
Z America/Indiana/Knox
P -20790 - LMT 1883 11 18 64800u
P -21600 u C%sT 1947
P -21600 St C%sT 1962 4 29 7200w
P -18000 - EST 1963 10 27 7200w
P -21600 u C%sT 1991 10 27 7200w
P -18000 - EST 2006 4 2 7200w
P -21600 u C%sT
Z America/Indiana/Marengo
P -20723 - LMT 1883 11 18 64800u
P -21600 u C%sT 1951
P -21600 Ma C%sT 1961 4 30 7200w
P -18000 - EST 1969
P -18000 u E%sT 1974 1 6 7200w
P -21600 :3600 CDT 1974 10 27 7200w
P -18000 u E%sT 1976
P -18000 - EST 2006
P -18000 u E%sT
Z America/Indiana/Petersburg
P -20947 - LMT 1883 11 18 64800u
P -21600 u C%sT 1955
P -21600 Pi C%sT 1965 4 25 7200w
P -18000 - EST 1966 10 30 7200w
P -21600 u C%sT 1977 10 30 7200w
P -18000 - EST 2006 4 2 7200w
P -21600 u C%sT 2007 11 4 7200w
P -18000 u E%sT
Z America/Indiana/Tell_City
P -20823 - LMT 1883 11 18 64800u
P -21600 u C%sT 1946
P -21600 Pe C%sT 1964 4 26 7200w
P -18000 - EST 1967 10 29 7200w
P -21600 u C%sT 1969 4 27 7200w
P -18000 u E%sT 1971
P -18000 - EST 2006 4 2 7200w
P -21600 u C%sT
Z America/Indiana/Vevay
P -20416 - LMT 1883 11 18 64800u
P -21600 u C%sT 1954 4 25 7200w
P -18000 - EST 1969
P -18000 u E%sT 1973
P -18000 - EST 2006
P -18000 u E%sT
Z America/Indiana/Vincennes
P -21007 - LMT 1883 11 18 64800u
P -21600 u C%sT 1946
P -21600 V C%sT 1964 4 26 7200w
P -18000 - EST 1969
P -18000 u E%sT 1971
P -18000 - EST 2006 4 2 7200w
P -21600 u C%sT 2007 11 4 7200w
P -18000 u E%sT
Z America/Indiana/Winamac
P -20785 - LMT 1883 11 18 64800u
P -21600 u C%sT 1946
P -21600 Pu C%sT 1961 4 30 7200w
P -18000 - EST 1969
P -18000 u E%sT 1971
P -18000 - EST 2006 4 2 7200w
P -21600 u C%sT 2007 3 11 7200w
P -18000 u E%sT
Z America/Inuvik
P 0 - -00 1953
P -28800 Y P%sT 1979 4 lastSun 7200w
P -25200 Y M%sT 1980
P -25200 C M%sT
Z America/Iqaluit
P 0 - -00 1942 8
P -18000 Y E%sT 1999 10 31 7200w
P -21600 C C%sT 2000 10 29 7200w
P -18000 C E%sT
Z America/Jamaica
P -18430 - LMT 1890
P -18430 - KMT 1912 2
P -18000 - EST 1974
P -18000 u E%sT 1984
P -18000 - EST
Z America/Juneau
P 54139 - LMT 1867 10 19 56012w
P -32261 - LMT 1900 8 20 43200w
P -28800 - PST 1942
P -28800 u P%sT 1946
P -28800 - PST 1969
P -28800 u P%sT 1980 4 27 7200w
P -32400 u Y%sT 1980 10 26 7200w
P -28800 u P%sT 1983 10 30 7200w
P -32400 u Y%sT 1983 11 30
P -32400 u AK%sT
Z America/Kentucky/Louisville
P -20582 - LMT 1883 11 18 64800u
P -21600 u C%sT 1921
P -21600 v C%sT 1942
P -21600 u C%sT 1946
P -21600 v C%sT 1961 7 23 7200w
P -18000 - EST 1968
P -18000 u E%sT 1974 1 6 7200w
P -21600 :3600 CDT 1974 10 27 7200w
P -18000 u E%sT
Z America/Kentucky/Monticello
P -20364 - LMT 1883 11 18 64800u
P -21600 u C%sT 1946
P -21600 - CST 1968
P -21600 u C%sT 2000 10 29 7200w
P -18000 u E%sT
Z America/La_Paz
P -16356 - LMT 1890
P -16356 - CMT 1931 10 15
P -16356 :3600 BST 1932 3 21
P -14400 - -04
Z America/Lima
P -18492 - LMT 1890
P -18516 - LMT 1908 7 28
P -18000 PE -05/-04
Z America/Los_Angeles
P -28378 - LMT 1883 11 18 72000u
P -28800 u P%sT 1946
P -28800 CA P%sT 1967
P -28800 u P%sT
Z America/Maceio
P -8572 - LMT 1914
P -10800 B -03/-02 1990 9 17
P -10800 - -03 1995 10 13
P -10800 B -03/-02 1996 9 4
P -10800 - -03 1999 9 30
P -10800 B -03/-02 2000 10 22
P -10800 - -03 2001 9 13
P -10800 B -03/-02 2002 10
P -10800 - -03
Z America/Managua
P -20708 - LMT 1890
P -20712 - MMT 1934 6 23
P -21600 - CST 1973 5
P -18000 - EST 1975 2 16
P -21600 NI C%sT 1992 1 1 14400w
P -18000 - EST 1992 9 24
P -21600 - CST 1993
P -18000 - EST 1997
P -21600 NI C%sT
Z America/Manaus
P -14404 - LMT 1914
P -14400 B -04/-03 1988 9 12
P -14400 - -04 1993 9 28
P -14400 B -04/-03 1994 9 22
P -14400 - -04
Z America/Martinique
P -14660 - LMT 1890
P -14660 - FFMT 1911 5
P -14400 - AST 1980 4 6
P -14400 :3600 ADT 1980 9 28
P -14400 - AST
Z America/Matamoros
P -23400 - LMT 1922 1 1 21600u
P -21600 - CST 1988
P -21600 u C%sT 1989
P -21600 m C%sT 2010
P -21600 u C%sT
Z America/Mazatlan
P -25540 - LMT 1922 1 1 25200u
P -25200 - MST 1927 6 10 82800w
P -21600 - CST 1930 11 15
P -25200 m M%sT 1932 4
P -21600 - CST 1942 4 24
P -25200 - MST 1949 1 14
P -28800 - PST 1970
P -25200 m M%sT
Z America/Menominee
P -21027 - LMT 1885 9 18 43200w
P -21600 u C%sT 1946
P -21600 Me C%sT 1969 4 27 7200w
P -18000 - EST 1973 4 29 7200w
P -21600 u C%sT
Z America/Merida
P -21508 - LMT 1922 1 1 21600u
P -21600 - CST 1981 12 23
P -18000 - EST 1982 12 2
P -21600 m C%sT
Z America/Metlakatla
P 54822 - LMT 1867 10 19 56695w
P -31578 - LMT 1900 8 20 43200w
P -28800 - PST 1942
P -28800 u P%sT 1946
P -28800 - PST 1969
P -28800 u P%sT 1983 10 30 7200w
P -28800 - PST 2015 11 1 7200w
P -32400 u AK%sT 2018 11 4 7200w
P -28800 - PST 2019 1 20 7200w
P -32400 u AK%sT
Z America/Mexico_City
P -23796 - LMT 1922 1 1 25200u
P -25200 - MST 1927 6 10 82800w
P -21600 - CST 1930 11 15
P -25200 m M%sT 1932 4
P -21600 m C%sT 2001 9 30 7200w
P -21600 - CST 2002 2 20
P -21600 m C%sT
Z America/Miquelon
P -13480 - LMT 1911 6 15
P -14400 - AST 1980 5
P -10800 - -03 1987
P -10800 C -03/-02
Z America/Moncton
P -15548 - LMT 1883 12 9
P -18000 - EST 1902 6 15
P -14400 C A%sT 1933
P -14400 o A%sT 1942
P -14400 C A%sT 1946
P -14400 o A%sT 1973
P -14400 C A%sT 1993
P -14400 o A%sT 2007
P -14400 C A%sT
Z America/Monterrey
P -24076 - LMT 1922 1 1 21600u
P -21600 - CST 1988
P -21600 u C%sT 1989
P -21600 m C%sT
Z America/Montevideo
P -13491 - LMT 1908 6 10
P -13491 - MMT 1920 5
P -14400 - -04 1923 10
P -12600 U -0330/-03 1942 12 14
P -10800 U -03/-0230 1960
P -10800 U -03/-02 1968
P -10800 U -03/-0230 1970
P -10800 U -03/-02 1974
P -10800 U -03/-0130 1974 3 10
P -10800 U -03/-0230 1974 12 22
P -10800 U -03/-02
Z America/New_York
P -17762 - LMT 1883 11 18 61200u
P -18000 u E%sT 1920
P -18000 NY E%sT 1942
P -18000 u E%sT 1946
P -18000 NY E%sT 1967
P -18000 u E%sT
Z America/Nome
P 46702 - LMT 1867 10 19 48575w
P -39698 - LMT 1900 8 20 43200w
P -39600 - NST 1942
P -39600 u N%sT 1946
P -39600 - NST 1967 4
P -39600 - BST 1969
P -39600 u B%sT 1983 10 30 7200w
P -32400 u Y%sT 1983 11 30
P -32400 u AK%sT
Z America/Noronha
P -7780 - LMT 1914
P -7200 B -02/-01 1990 9 17
P -7200 - -02 1999 9 30
P -7200 B -02/-01 2000 10 15
P -7200 - -02 2001 9 13
P -7200 B -02/-01 2002 10
P -7200 - -02
Z America/North_Dakota/Beulah
P -24427 - LMT 1883 11 18 68400u
P -25200 u M%sT 2010 11 7 7200w
P -21600 u C%sT
Z America/North_Dakota/Center
P -24312 - LMT 1883 11 18 68400u
P -25200 u M%sT 1992 10 25 7200w
P -21600 u C%sT
Z America/North_Dakota/New_Salem
P -24339 - LMT 1883 11 18 68400u
P -25200 u M%sT 2003 10 26 7200w
P -21600 u C%sT
Z America/Nuuk
P -12416 - LMT 1916 7 28
P -10800 - -03 1980 4 6 7200w
P -10800 E -03/-02 2023 3 26 3600u
P -7200 - -02 2023 10 29 3600u
P -7200 E -02/-01
Z America/Ojinaga
P -25060 - LMT 1922 1 1 25200u
P -25200 - MST 1927 6 10 82800w
P -21600 - CST 1930 11 15
P -25200 m M%sT 1932 4
P -21600 - CST 1996
P -21600 m C%sT 1998
P -21600 - CST 1998 4 Sun>=1 10800w
P -25200 m M%sT 2010
P -25200 u M%sT 2022 10 30 7200w
P -21600 - CST 2022 11 30
P -21600 u C%sT
Z America/Panama
P -19088 - LMT 1890
P -19176 - CMT 1908 4 22
P -18000 - EST
Z America/Paramaribo
P -13240 - LMT 1911
P -13252 - PMT 1935
P -13236 - PMT 1945 10
P -12600 - -0330 1984 10
P -10800 - -03
Z America/Phoenix
P -26898 - LMT 1883 11 18 68400u
P -25200 u M%sT 1944 1 1 60w
P -25200 - MST 1944 4 1 60w
P -25200 u M%sT 1944 10 1 60w
P -25200 - MST 1967
P -25200 u M%sT 1968 3 21
P -25200 - MST
Z America/Port-au-Prince
P -17360 - LMT 1890
P -17340 - PPMT 1917 1 24 43200w
P -18000 HT E%sT
Z America/Porto_Velho
P -15336 - LMT 1914
P -14400 B -04/-03 1988 9 12
P -14400 - -04
Z America/Puerto_Rico
P -15865 - LMT 1899 3 28 43200w
P -14400 - AST 1942 5 3
P -14400 u A%sT 1946
P -14400 - AST
Z America/Punta_Arenas
P -17020 - LMT 1890
P -16965 - SMT 1910 1 10
P -18000 - -05 1916 7
P -16965 - SMT 1918 9 10
P -14400 - -04 1919 7
P -16965 - SMT 1927 9
P -18000 x -05/-04 1932 9
P -14400 - -04 1942 6
P -18000 - -05 1942 8
P -14400 - -04 1946 8 28 86400w
P -18000 :3600 -04 1947 3 31 86400w
P -18000 - -05 1947 5 21 82800w
P -14400 x -04/-03 2016 12 4
P -10800 - -03
Z America/Rankin_Inlet
P 0 - -00 1957
P -21600 Y C%sT 2000 10 29 7200w
P -18000 - EST 2001 4 1 10800w
P -21600 C C%sT
Z America/Recife
P -8376 - LMT 1914
P -10800 B -03/-02 1990 9 17
P -10800 - -03 1999 9 30
P -10800 B -03/-02 2000 10 15
P -10800 - -03 2001 9 13
P -10800 B -03/-02 2002 10
P -10800 - -03
Z America/Regina
P -25116 - LMT 1905 9
P -25200 r M%sT 1960 4 lastSun 7200w
P -21600 - CST
Z America/Resolute
P 0 - -00 1947 8 31
P -21600 Y C%sT 2000 10 29 7200w
P -18000 - EST 2001 4 1 10800w
P -21600 C C%sT 2006 10 29 7200w
P -18000 - EST 2007 3 11 10800w
P -21600 C C%sT
Z America/Rio_Branco
P -16272 - LMT 1914
P -18000 B -05/-04 1988 9 12
P -18000 - -05 2008 6 24
P -14400 - -04 2013 11 10
P -18000 - -05
Z America/Santarem
P -13128 - LMT 1914
P -14400 B -04/-03 1988 9 12
P -14400 - -04 2008 6 24
P -10800 - -03
Z America/Santiago
P -16965 - LMT 1890
P -16965 - SMT 1910 1 10
P -18000 - -05 1916 7
P -16965 - SMT 1918 9 10
P -14400 - -04 1919 7
P -16965 - SMT 1927 9
P -18000 x -05/-04 1932 9
P -14400 - -04 1942 6
P -18000 - -05 1942 8
P -14400 - -04 1946 7 14 86400w
P -14400 :3600 -03 1946 8 28 86400w
P -18000 :3600 -04 1947 3 31 86400w
P -18000 - -05 1947 5 21 82800w
P -14400 x -04/-03
Z America/Santo_Domingo
P -16776 - LMT 1890
P -16800 - SDMT 1933 4 1 43200w
P -18000 DO %s 1974 10 27
P -14400 - AST 2000 10 29 7200w
P -18000 u E%sT 2000 12 3 3600w
P -14400 - AST
Z America/Sao_Paulo
P -11188 - LMT 1914
P -10800 B -03/-02 1963 10 23
P -10800 :3600 -02 1964
P -10800 B -03/-02
Z America/Scoresbysund
P -5272 - LMT 1916 7 28
P -7200 - -02 1980 4 6 7200w
P -7200 c -02/-01 1981 3 29
P -3600 E -01/+00 2024 3 31
P -7200 E -02/-01
Z America/Sitka
P 53927 - LMT 1867 10 19 55800w
P -32473 - LMT 1900 8 20 43200w
P -28800 - PST 1942
P -28800 u P%sT 1946
P -28800 - PST 1969
P -28800 u P%sT 1983 10 30 7200w
P -32400 u Y%sT 1983 11 30
P -32400 u AK%sT
Z America/St_Johns
P -12652 - LMT 1884
P -12652 j N%sT 1918
P -12652 C N%sT 1919
P -12652 j N%sT 1935 3 30
P -12600 j N%sT 1942 5 11
P -12600 C N%sT 1946
P -12600 j N%sT 2011 11
P -12600 C N%sT
Z America/Swift_Current
P -25880 - LMT 1905 9
P -25200 C M%sT 1946 4 lastSun 7200w
P -25200 r M%sT 1950
P -25200 Sw M%sT 1972 4 lastSun 7200w
P -21600 - CST
Z America/Tegucigalpa
P -20932 - LMT 1921 4
P -21600 HN C%sT
Z America/Thule
P -16508 - LMT 1916 7 28
P -14400 Th A%sT
Z America/Tijuana
P -28084 - LMT 1922 1 1 25200u
P -25200 - MST 1924
P -28800 - PST 1927 6 10 82800w
P -25200 - MST 1930 11 15
P -28800 - PST 1931 4
P -28800 :3600 PDT 1931 9 30
P -28800 - PST 1942 4 24
P -28800 :3600 PWT 1945 8 14 82800u
P -28800 :3600 PPT 1945 11 12
P -28800 - PST 1948 4 5
P -28800 :3600 PDT 1949 1 14
P -28800 - PST 1954
P -28800 CA P%sT 1961
P -28800 - PST 1976
P -28800 u P%sT 1996
P -28800 m P%sT 2001
P -28800 u P%sT 2002 2 20
P -28800 m P%sT 2010
P -28800 u P%sT
Z America/Toronto
P -19052 - LMT 1895
P -18000 C E%sT 1919
P -18000 t E%sT 1942 2 9 7200s
P -18000 C E%sT 1946
P -18000 t E%sT 1974
P -18000 C E%sT
Z America/Vancouver
P -29548 - LMT 1884
P -28800 Va P%sT 1987
P -28800 C P%sT
Z America/Whitehorse
P -32412 - LMT 1900 8 20
P -32400 Y Y%sT 1965
P -32400 Yu Y%sT 1966 2 27
P -28800 - PST 1980
P -28800 C P%sT 2020 11
P -25200 - MST
Z America/Winnipeg
P -23316 - LMT 1887 7 16
P -21600 W C%sT 2006
P -21600 C C%sT
Z America/Yakutat
P 52865 - LMT 1867 10 19 54738w
P -33535 - LMT 1900 8 20 43200w
P -32400 - YST 1942
P -32400 u Y%sT 1946
P -32400 - YST 1969
P -32400 u Y%sT 1983 11 30
P -32400 u AK%sT
Z Antarctica/Casey
P 0 - -00 1969
P 28800 - +08 2009 10 18 7200w
P 39600 - +11 2010 3 5 7200w
P 28800 - +08 2011 10 28 7200w
P 39600 - +11 2012 2 21 61200u
P 28800 - +08 2016 10 22
P 39600 - +11 2018 3 11 14400w
P 28800 - +08 2018 10 7 14400w
P 39600 - +11 2019 3 17 10800w
P 28800 - +08 2019 10 4 10800w
P 39600 - +11 2020 3 8 10800w
P 28800 - +08 2020 10 4 60w
P 39600 - +11 2021 3 14
P 28800 - +08 2021 10 3 60w
P 39600 - +11 2022 3 13
P 28800 - +08 2022 10 2 60w
P 39600 - +11 2023 3 9 10800w
P 28800 - +08
Z Antarctica/Davis
P 0 - -00 1957 1 13
P 25200 - +07 1964 11
P 0 - -00 1969 2
P 25200 - +07 2009 10 18 7200w
P 18000 - +05 2010 3 10 72000u
P 25200 - +07 2011 10 28 7200w
P 18000 - +05 2012 2 21 72000u
P 25200 - +07
Z Antarctica/Macquarie
P 0 - -00 1899 11
P 36000 - AEST 1916 10 1 7200w
P 36000 :3600 AEDT 1917 2
P 36000 AU AE%sT 1919 4 1 0s
P 0 - -00 1948 3 25
P 36000 AU AE%sT 1967
P 36000 AT AE%sT 2010
P 36000 :3600 AEDT 2011
P 36000 AT AE%sT
Z Antarctica/Mawson
P 0 - -00 1954 2 13
P 21600 - +06 2009 10 18 7200w
P 18000 - +05
Z Antarctica/Palmer
P 0 - -00 1965
P -14400 A -04/-03 1969 10 5
P -10800 A -03/-02 1982 5
P -14400 x -04/-03 2016 12 4
P -10800 - -03
Z Antarctica/Rothera
P 0 - -00 1976 12
P -10800 - -03
Z Antarctica/Troll
P 0 - -00 2005 2 12
P 0 Tr %s
Z Antarctica/Vostok
P 0 - -00 1957 12 16
P 25200 - +07 1994 2
P 0 - -00 1994 11
P 25200 - +07 2023 12 18 7200w
P 18000 - +05
Z Asia/Almaty
P 18468 - LMT 1924 5 2
P 18000 - +05 1930 6 21
P 21600 R +06/+07 1991 3 31 7200s
P 18000 R +05/+06 1992 1 19 7200s
P 21600 R +06/+07 2004 10 31 7200s
P 21600 - +06 2024 3
P 18000 - +05
Z Asia/Amman
P 8624 - LMT 1931
P 7200 J EE%sT 2022 10 28 0s
P 10800 - +03
Z Asia/Anadyr
P 42596 - LMT 1924 5 2
P 43200 - +12 1930 6 21
P 46800 R +13/+14 1982 4 1 0s
P 43200 R +12/+13 1991 3 31 7200s
P 39600 R +11/+12 1992 1 19 7200s
P 43200 R +12/+13 2010 3 28 7200s
P 39600 R +11/+12 2011 3 27 7200s
P 43200 - +12
Z Asia/Aqtau
P 12064 - LMT 1924 5 2
P 14400 - +04 1930 6 21
P 18000 - +05 1981 10
P 21600 - +06 1982 4
P 18000 R +05/+06 1991 3 31 7200s
P 14400 R +04/+05 1992 1 19 7200s
P 18000 R +05/+06 1994 9 25 7200s
P 14400 R +04/+05 2004 10 31 7200s
P 18000 - +05
Z Asia/Aqtobe
P 13720 - LMT 1924 5 2
P 14400 - +04 1930 6 21
P 18000 - +05 1981 4
P 18000 :3600 +06 1981 10
P 21600 - +06 1982 4
P 18000 R +05/+06 1991 3 31 7200s
P 14400 R +04/+05 1992 1 19 7200s
P 18000 R +05/+06 2004 10 31 7200s
P 18000 - +05
Z Asia/Ashgabat
P 14012 - LMT 1924 5 2
P 14400 - +04 1930 6 21
P 18000 R +05/+06 1991 3 31 7200w
P 14400 R +04/+05 1992 1 19 7200w
P 18000 - +05
Z Asia/Atyrau
P 12464 - LMT 1924 5 2
P 10800 - +03 1930 6 21
P 18000 - +05 1981 10
P 21600 - +06 1982 4
P 18000 R +05/+06 1991 3 31 7200s
P 14400 R +04/+05 1992 1 19 7200s
P 18000 R +05/+06 1999 3 28 7200s
P 14400 R +04/+05 2004 10 31 7200s
P 18000 - +05
Z Asia/Baghdad
P 10660 - LMT 1890
P 10656 - BMT 1918
P 10800 - +03 1982 5
P 10800 IQ +03/+04
Z Asia/Baku
P 11964 - LMT 1924 5 2
P 10800 - +03 1957 3
P 14400 R +04/+05 1991 3 31 7200s
P 10800 R +03/+04 1992 9 lastSun 7200s
P 14400 - +04 1996
P 14400 E +04/+05 1997
P 14400 AZ +04/+05
Z Asia/Bangkok
P 24124 - LMT 1880
P 24124 - BMT 1920 4
P 25200 - +07
Z Asia/Barnaul
P 20100 - LMT 1919 12 10
P 21600 - +06 1930 6 21
P 25200 R +07/+08 1991 3 31 7200s
P 21600 R +06/+07 1992 1 19 7200s
P 25200 R +07/+08 1995 5 28
P 21600 R +06/+07 2011 3 27 7200s
P 25200 - +07 2014 10 26 7200s
P 21600 - +06 2016 3 27 7200s
P 25200 - +07
Z Asia/Beirut
P 8520 - LMT 1880
P 7200 l EE%sT
Z Asia/Bishkek
P 17904 - LMT 1924 5 2
P 18000 - +05 1930 6 21
P 21600 R +06/+07 1991 3 31 7200s
P 18000 R +05/+06 1991 8 31 7200w
P 18000 KG +05/+06 2005 8 12
P 21600 - +06
Z Asia/Chita
P 27232 - LMT 1919 12 15
P 28800 - +08 1930 6 21
P 32400 R +09/+10 1991 3 31 7200s
P 28800 R +08/+09 1992 1 19 7200s
P 32400 R +09/+10 2011 3 27 7200s
P 36000 - +10 2014 10 26 7200s
P 28800 - +08 2016 3 27 7200w
P 32400 - +09
Z Asia/Choibalsan
P 27480 - LMT 1905 8
P 25200 - +07 1978
P 28800 - +08 1983 4
P 32400 X +09/+10 2008 3 31
P 28800 X +08/+09
Z Asia/Colombo
P 19164 - LMT 1880
P 19172 - MMT 1906
P 19800 - +0530 1942 1 5
P 19800 :1800 +06 1942 9
P 19800 :3600 +0630 1945 10 16 7200w
P 19800 - +0530 1996 5 25
P 23400 - +0630 1996 10 26 1800w
P 21600 - +06 2006 4 15 1800w
P 19800 - +0530
Z Asia/Damascus
P 8712 - LMT 1920
P 7200 S EE%sT 2022 10 28
P 10800 - +03
Z Asia/Dhaka
P 21700 - LMT 1890
P 21200 - HMT 1941 10
P 23400 - +0630 1942 5 15
P 19800 - +0530 1942 9
P 23400 - +0630 1951 9 30
P 21600 - +06 2009
P 21600 BD +06/+07
Z Asia/Dili
P 30140 - LMT 1912 1
P 28800 - +08 1942 2 21 82800w
P 32400 - +09 1976 5 3
P 28800 - +08 2000 9 17
P 32400 - +09
Z Asia/Dubai
P 13272 - LMT 1920
P 14400 - +04
Z Asia/Dushanbe
P 16512 - LMT 1924 5 2
P 18000 - +05 1930 6 21
P 21600 R +06/+07 1991 3 31 7200s
P 18000 :3600 +06 1991 9 9 7200s
P 18000 - +05
Z Asia/Famagusta
P 8148 - LMT 1921 11 14
P 7200 CY EE%sT 1998 9
P 7200 E EE%sT 2016 9 8
P 10800 - +03 2017 10 29 3600u
P 7200 E EE%sT
Z Asia/Gaza
P 8272 - LMT 1900 10
P 7200 Z EET/EEST 1948 5 15
P 7200 K EE%sT 1967 6 5
P 7200 Z I%sT 1996
P 7200 J EE%sT 1999
P 7200 P EE%sT 2008 8 29
P 7200 - EET 2008 9
P 7200 P EE%sT 2010
P 7200 - EET 2010 3 27 60w
P 7200 P EE%sT 2011 8
P 7200 - EET 2012
P 7200 P EE%sT
Z Asia/Hebron
P 8423 - LMT 1900 10
P 7200 Z EET/EEST 1948 5 15
P 7200 K EE%sT 1967 6 5
P 7200 Z I%sT 1996
P 7200 J EE%sT 1999
P 7200 P EE%sT
Z Asia/Ho_Chi_Minh
P 25590 - LMT 1906 7
P 25590 - PLMT 1911 5
P 25200 - +07 1942 12 31 82800w
P 28800 - +08 1945 3 14 82800w
P 32400 - +09 1945 9 1 86400w
P 25200 - +07 1947 4
P 28800 - +08 1955 7 1 3600w
P 25200 - +07 1959 12 31 82800w
P 28800 - +08 1975 6 13
P 25200 - +07
Z Asia/Hong_Kong
P 27402 - LMT 1904 10 29 61200u
P 28800 - HKT 1941 6 15 10800w
P 28800 :3600 HKST 1941 10 1 14400w
P 28800 :1800 HKWT 1941 12 25
P 32400 - JST 1945 11 18 7200w
P 28800 HK HK%sT
Z Asia/Hovd
P 21996 - LMT 1905 8
P 21600 - +06 1978
P 25200 X +07/+08
Z Asia/Irkutsk
P 25025 - LMT 1880
P 25025 - IMT 1920 1 25
P 25200 - +07 1930 6 21
P 28800 R +08/+09 1991 3 31 7200s
P 25200 R +07/+08 1992 1 19 7200s
P 28800 R +08/+09 2011 3 27 7200s
P 32400 - +09 2014 10 26 7200s
P 28800 - +08
Z Asia/Jakarta
P 25632 - LMT 1867 8 10
P 25632 - BMT 1923 12 31 60000u
P 26400 - +0720 1932 11
P 27000 - +0730 1942 3 23
P 32400 - +09 1945 9 23
P 27000 - +0730 1948 5
P 28800 - +08 1950 5
P 27000 - +0730 1964
P 25200 - WIB
Z Asia/Jayapura
P 33768 - LMT 1932 11
P 32400 - +09 1944 9
P 34200 - +0930 1964
P 32400 - WIT
Z Asia/Jerusalem
P 8454 - LMT 1880
P 8440 - JMT 1918
P 7200 Z I%sT
Z Asia/Kabul
P 16608 - LMT 1890
P 14400 - +04 1945
P 16200 - +0430
Z Asia/Kamchatka
P 38076 - LMT 1922 11 10
P 39600 - +11 1930 6 21
P 43200 R +12/+13 1991 3 31 7200s
P 39600 R +11/+12 1992 1 19 7200s
P 43200 R +12/+13 2010 3 28 7200s
P 39600 R +11/+12 2011 3 27 7200s
P 43200 - +12
Z Asia/Karachi
P 16092 - LMT 1907
P 19800 - +0530 1942 9
P 19800 :3600 +0630 1945 10 15
P 19800 - +0530 1951 9 30
P 18000 - +05 1971 3 26
P 18000 PK PK%sT
Z Asia/Kathmandu
P 20476 - LMT 1920
P 19800 - +0530 1986
P 20700 - +0545
Z Asia/Khandyga
P 32533 - LMT 1919 12 15
P 28800 - +08 1930 6 21
P 32400 R +09/+10 1991 3 31 7200s
P 28800 R +08/+09 1992 1 19 7200s
P 32400 R +09/+10 2004
P 36000 R +10/+11 2011 3 27 7200s
P 39600 - +11 2011 9 13 0s
P 36000 - +10 2014 10 26 7200s
P 32400 - +09
Z Asia/Kolkata
P 21208 - LMT 1854 6 28
P 21200 - HMT 1870
P 19270 - MMT 1906
P 19800 - IST 1941 10
P 19800 :3600 +0630 1942 5 15
P 19800 - IST 1942 9
P 19800 :3600 +0630 1945 10 15
P 19800 - IST
Z Asia/Krasnoyarsk
P 22286 - LMT 1920 1 6
P 21600 - +06 1930 6 21
P 25200 R +07/+08 1991 3 31 7200s
P 21600 R +06/+07 1992 1 19 7200s
P 25200 R +07/+08 2011 3 27 7200s
P 28800 - +08 2014 10 26 7200s
P 25200 - +07
Z Asia/Kuching
P 26480 - LMT 1926 3
P 27000 - +0730 1933
P 28800 NB +08/+0820 1942 2 16
P 32400 - +09 1945 9 12
P 28800 - +08
Z Asia/Macau
P 27250 - LMT 1904 10 30
P 28800 - CST 1941 12 21 82800w
P 32400 _ +09/+10 1945 9 30 86400w
P 28800 _ C%sT
Z Asia/Magadan
P 36192 - LMT 1924 5 2
P 36000 - +10 1930 6 21
P 39600 R +11/+12 1991 3 31 7200s
P 36000 R +10/+11 1992 1 19 7200s
P 39600 R +11/+12 2011 3 27 7200s
P 43200 - +12 2014 10 26 7200s
P 36000 - +10 2016 4 24 7200s
P 39600 - +11
Z Asia/Makassar
P 28656 - LMT 1920
P 28656 - MMT 1932 11
P 28800 - +08 1942 2 9
P 32400 - +09 1945 9 23
P 28800 - WITA
Z Asia/Manila
P -57360 - LMT 1844 12 31
P 29040 - LMT 1899 5 11
P 28800 PH P%sT 1942 5
P 32400 - JST 1944 11
P 28800 PH P%sT
Z Asia/Nicosia
P 8008 - LMT 1921 11 14
P 7200 CY EE%sT 1998 9
P 7200 E EE%sT
Z Asia/Novokuznetsk
P 20928 - LMT 1924 5
P 21600 - +06 1930 6 21
P 25200 R +07/+08 1991 3 31 7200s
P 21600 R +06/+07 1992 1 19 7200s
P 25200 R +07/+08 2010 3 28 7200s
P 21600 R +06/+07 2011 3 27 7200s
P 25200 - +07
Z Asia/Novosibirsk
P 19900 - LMT 1919 12 14 21600w
P 21600 - +06 1930 6 21
P 25200 R +07/+08 1991 3 31 7200s
P 21600 R +06/+07 1992 1 19 7200s
P 25200 R +07/+08 1993 5 23
P 21600 R +06/+07 2011 3 27 7200s
P 25200 - +07 2014 10 26 7200s
P 21600 - +06 2016 7 24 7200s
P 25200 - +07
Z Asia/Omsk
P 17610 - LMT 1919 11 14
P 18000 - +05 1930 6 21
P 21600 R +06/+07 1991 3 31 7200s
P 18000 R +05/+06 1992 1 19 7200s
P 21600 R +06/+07 2011 3 27 7200s
P 25200 - +07 2014 10 26 7200s
P 21600 - +06
Z Asia/Oral
P 12324 - LMT 1924 5 2
P 10800 - +03 1930 6 21
P 18000 - +05 1981 4
P 18000 :3600 +06 1981 10
P 21600 - +06 1982 4
P 18000 R +05/+06 1989 3 26 7200s
P 14400 R +04/+05 1992 1 19 7200s
P 18000 R +05/+06 1992 3 29 7200s
P 14400 R +04/+05 2004 10 31 7200s
P 18000 - +05
Z Asia/Pontianak
P 26240 - LMT 1908 5
P 26240 - PMT 1932 11
P 27000 - +0730 1942 1 29
P 32400 - +09 1945 9 23
P 27000 - +0730 1948 5
P 28800 - +08 1950 5
P 27000 - +0730 1964
P 28800 - WITA 1988
P 25200 - WIB
Z Asia/Pyongyang
P 30180 - LMT 1908 4
P 30600 - KST 1912
P 32400 - JST 1945 8 24
P 32400 - KST 2015 8 15
P 30600 - KST 2018 5 4 84600w
P 32400 - KST
Z Asia/Qatar
P 12368 - LMT 1920
P 14400 - +04 1972 6
P 10800 - +03
Z Asia/Qostanay
P 15268 - LMT 1924 5 2
P 14400 - +04 1930 6 21
P 18000 - +05 1981 4
P 18000 :3600 +06 1981 10
P 21600 - +06 1982 4
P 18000 R +05/+06 1991 3 31 7200s
P 14400 R +04/+05 1992 1 19 7200s
P 18000 R +05/+06 2004 10 31 7200s
P 21600 - +06 2024 3
P 18000 - +05
Z Asia/Qyzylorda
P 15712 - LMT 1924 5 2
P 14400 - +04 1930 6 21
P 18000 - +05 1981 4
P 18000 :3600 +06 1981 10
P 21600 - +06 1982 4
P 18000 R +05/+06 1991 3 31 7200s
P 14400 R +04/+05 1991 9 29 7200s
P 18000 R +05/+06 1992 1 19 7200s
P 21600 R +06/+07 1992 3 29 7200s
P 18000 R +05/+06 2004 10 31 7200s
P 21600 - +06 2018 12 21
P 18000 - +05
Z Asia/Riyadh
P 11212 - LMT 1947 3 14
P 10800 - +03
Z Asia/Sakhalin
P 34248 - LMT 1905 8 23
P 32400 - +09 1945 8 25
P 39600 R +11/+12 1991 3 31 7200s
P 36000 R +10/+11 1992 1 19 7200s
P 39600 R +11/+12 1997 3 lastSun 7200s
P 36000 R +10/+11 2011 3 27 7200s
P 39600 - +11 2014 10 26 7200s
P 36000 - +10 2016 3 27 7200s
P 39600 - +11
Z Asia/Samarkand
P 16073 - LMT 1924 5 2
P 14400 - +04 1930 6 21
P 18000 - +05 1981 4
P 18000 :3600 +06 1981 10
P 21600 - +06 1982 4
P 18000 R +05/+06 1992
P 18000 - +05
Z Asia/Seoul
P 30472 - LMT 1908 4
P 30600 - KST 1912
P 32400 - JST 1945 9 8
P 32400 KR K%sT 1954 3 21
P 30600 KR K%sT 1961 8 10
P 32400 KR K%sT
Z Asia/Shanghai
P 29143 - LMT 1901
P 28800 Sh C%sT 1949 5 28
P 28800 CN C%sT
Z Asia/Singapore
P 24925 - LMT 1901
P 24925 - SMT 1905 6
P 25200 - +07 1933
P 25200 :1200 +0720 1936
P 26400 - +0720 1941 9
P 27000 - +0730 1942 2 16
P 32400 - +09 1945 9 12
P 27000 - +0730 1981 12 31 57600u
P 28800 - +08
Z Asia/Srednekolymsk
P 36892 - LMT 1924 5 2
P 36000 - +10 1930 6 21
P 39600 R +11/+12 1991 3 31 7200s
P 36000 R +10/+11 1992 1 19 7200s
P 39600 R +11/+12 2011 3 27 7200s
P 43200 - +12 2014 10 26 7200s
P 39600 - +11
Z Asia/Taipei
P 29160 - LMT 1896
P 28800 - CST 1937 10
P 32400 - JST 1945 9 21 3600w
P 28800 f C%sT
Z Asia/Tashkent
P 16631 - LMT 1924 5 2
P 18000 - +05 1930 6 21
P 21600 R +06/+07 1991 3 31 7200w
P 18000 R +05/+06 1992
P 18000 - +05
Z Asia/Tbilisi
P 10751 - LMT 1880
P 10751 - TBMT 1924 5 2
P 10800 - +03 1957 3
P 14400 R +04/+05 1991 3 31 7200s
P 10800 R +03/+04 1992
P 10800 e +03/+04 1994 9 lastSun
P 14400 e +04/+05 1996 10 lastSun
P 14400 :3600 +05 1997 3 lastSun
P 14400 e +04/+05 2004 6 27
P 10800 R +03/+04 2005 3 lastSun 7200w
P 14400 - +04
Z Asia/Tehran
P 12344 - LMT 1916
P 12344 - TMT 1935 6 13
P 12600 i +0330/+0430 1977 10 20 86400w
P 14400 i +04/+05 1979
P 12600 i +0330/+0430
Z Asia/Thimphu
P 21516 - LMT 1947 8 15
P 19800 - +0530 1987 10
P 21600 - +06
Z Asia/Tokyo
P 33539 - LMT 1887 12 31 54000u
P 32400 JP J%sT
Z Asia/Tomsk
P 20391 - LMT 1919 12 22
P 21600 - +06 1930 6 21
P 25200 R +07/+08 1991 3 31 7200s
P 21600 R +06/+07 1992 1 19 7200s
P 25200 R +07/+08 2002 5 1 10800w
P 21600 R +06/+07 2011 3 27 7200s
P 25200 - +07 2014 10 26 7200s
P 21600 - +06 2016 5 29 7200s
P 25200 - +07
Z Asia/Ulaanbaatar
P 25652 - LMT 1905 8
P 25200 - +07 1978
P 28800 X +08/+09
Z Asia/Urumqi
P 21020 - LMT 1928
P 21600 - +06
Z Asia/Ust-Nera
P 34374 - LMT 1919 12 15
P 28800 - +08 1930 6 21
P 32400 R +09/+10 1981 4
P 39600 R +11/+12 1991 3 31 7200s
P 36000 R +10/+11 1992 1 19 7200s
P 39600 R +11/+12 2011 3 27 7200s
P 43200 - +12 2011 9 13 0s
P 39600 - +11 2014 10 26 7200s
P 36000 - +10
Z Asia/Vladivostok
P 31651 - LMT 1922 11 15
P 32400 - +09 1930 6 21
P 36000 R +10/+11 1991 3 31 7200s
P 32400 R +09/+10 1992 1 19 7200s
P 36000 R +10/+11 2011 3 27 7200s
P 39600 - +11 2014 10 26 7200s
P 36000 - +10
Z Asia/Yakutsk
P 31138 - LMT 1919 12 15
P 28800 - +08 1930 6 21
P 32400 R +09/+10 1991 3 31 7200s
P 28800 R +08/+09 1992 1 19 7200s
P 32400 R +09/+10 2011 3 27 7200s
P 36000 - +10 2014 10 26 7200s
P 32400 - +09
Z Asia/Yangon
P 23087 - LMT 1880
P 23087 - RMT 1920
P 23400 - +0630 1942 5
P 32400 - +09 1945 5 3
P 23400 - +0630
Z Asia/Yekaterinburg
P 14553 - LMT 1916 7 3
P 13505 - PMT 1919 7 15 14400w
P 14400 - +04 1930 6 21
P 18000 R +05/+06 1991 3 31 7200s
P 14400 R +04/+05 1992 1 19 7200s
P 18000 R +05/+06 2011 3 27 7200s
P 21600 - +06 2014 10 26 7200s
P 18000 - +05
Z Asia/Yerevan
P 10680 - LMT 1924 5 2
P 10800 - +03 1957 3
P 14400 R +04/+05 1991 3 31 7200s
P 10800 R +03/+04 1995 9 24 7200s
P 14400 - +04 1997
P 14400 R +04/+05 2011
P 14400 AM +04/+05
Z Atlantic/Azores
P -6160 - LMT 1884
P -6872 - HMT 1912 1 1 7200u
P -7200 p -02/-01 1942 4 25 79200s
P -7200 p +00 1942 8 15 79200s
P -7200 p -02/-01 1943 4 17 79200s
P -7200 p +00 1943 8 28 79200s
P -7200 p -02/-01 1944 4 22 79200s
P -7200 p +00 1944 8 26 79200s
P -7200 p -02/-01 1945 4 21 79200s
P -7200 p +00 1945 8 25 79200s
P -7200 p -02/-01 1966 4 3 7200w
P -3600 p -01/+00 1983 9 25 3600s
P -3600 W- -01/+00 1992 9 27 3600s
P 0 E WE%sT 1993 3 28 3600u
P -3600 E -01/+00
Z Atlantic/Bermuda
P -15558 - LMT 1890
P -15558 Be BMT/BST 1930 1 1 7200w
P -14400 Be A%sT 1974 4 28 7200w
P -14400 C A%sT 1976
P -14400 u A%sT
Z Atlantic/Canary
P -3696 - LMT 1922 3
P -3600 - -01 1946 9 30 3600w
P 0 - WET 1980 4 6 0s
P 0 :3600 WEST 1980 9 28 3600u
P 0 E WE%sT
Z Atlantic/Cape_Verde
P -5644 - LMT 1912 1 1 7200u
P -7200 - -02 1942 9
P -7200 :3600 -01 1945 10 15
P -7200 - -02 1975 11 25 7200w
P -3600 - -01
Z Atlantic/Faroe
P -1624 - LMT 1908 1 11
P 0 - WET 1981
P 0 E WE%sT
Z Atlantic/Madeira
P -4056 - LMT 1884
P -4056 - FMT 1912 1 1 3600u
P -3600 p -01/+00 1942 4 25 79200s
P -3600 p +01 1942 8 15 79200s
P -3600 p -01/+00 1943 4 17 79200s
P -3600 p +01 1943 8 28 79200s
P -3600 p -01/+00 1944 4 22 79200s
P -3600 p +01 1944 8 26 79200s
P -3600 p -01/+00 1945 4 21 79200s
P -3600 p +01 1945 8 25 79200s
P -3600 p -01/+00 1966 4 3 7200w
P 0 p WE%sT 1983 9 25 3600s
P 0 E WE%sT
Z Atlantic/South_Georgia
P -8768 - LMT 1890
P -7200 - -02
Z Atlantic/Stanley
P -13884 - LMT 1890
P -13884 - SMT 1912 3 12
P -14400 FK -04/-03 1983 5
P -10800 FK -03/-02 1985 9 15
P -14400 FK -04/-03 2010 9 5 7200w
P -10800 - -03
Z Australia/Adelaide
P 33260 - LMT 1895 2
P 32400 - ACST 1899 5
P 34200 AU AC%sT 1971
P 34200 AS AC%sT
Z Australia/Brisbane
P 36728 - LMT 1895
P 36000 AU AE%sT 1971
P 36000 AQ AE%sT
Z Australia/Broken_Hill
P 33948 - LMT 1895 2
P 36000 - AEST 1896 8 23
P 32400 - ACST 1899 5
P 34200 AU AC%sT 1971
P 34200 AN AC%sT 2000
P 34200 AS AC%sT
Z Australia/Darwin
P 31400 - LMT 1895 2
P 32400 - ACST 1899 5
P 34200 AU AC%sT
Z Australia/Eucla
P 30928 - LMT 1895 12
P 31500 AU +0845/+0945 1943 7
P 31500 AW +0845/+0945
Z Australia/Hobart
P 35356 - LMT 1895 9
P 36000 AT AE%sT 1919 10 24
P 36000 AU AE%sT 1967
P 36000 AT AE%sT
Z Australia/Lindeman
P 35756 - LMT 1895
P 36000 AU AE%sT 1971
P 36000 AQ AE%sT 1992 7
P 36000 Ho AE%sT
Z Australia/Lord_Howe
P 38180 - LMT 1895 2
P 36000 - AEST 1981 3
P 37800 LH +1030/+1130 1985 7
P 37800 LH +1030/+11
Z Australia/Melbourne
P 34792 - LMT 1895 2
P 36000 AU AE%sT 1971
P 36000 AV AE%sT
Z Australia/Perth
P 27804 - LMT 1895 12
P 28800 AU AW%sT 1943 7
P 28800 AW AW%sT
Z Australia/Sydney
P 36292 - LMT 1895 2
P 36000 AU AE%sT 1971
P 36000 AN AE%sT
Z CET
P 3600 c CE%sT
Z CST6CDT
P -21600 u C%sT
Z EET
P 7200 E EE%sT
Z EST
P -18000 - EST
Z EST5EDT
P -18000 u E%sT
Z Etc/GMT
P 0 - GMT
Z Etc/GMT+1
P -3600 - -01
Z Etc/GMT+10
P -36000 - -10
Z Etc/GMT+11
P -39600 - -11
Z Etc/GMT+12
P -43200 - -12
Z Etc/GMT+2
P -7200 - -02
Z Etc/GMT+3
P -10800 - -03
Z Etc/GMT+4
P -14400 - -04
Z Etc/GMT+5
P -18000 - -05
Z Etc/GMT+6
P -21600 - -06
Z Etc/GMT+7
P -25200 - -07
Z Etc/GMT+8
P -28800 - -08
Z Etc/GMT+9
P -32400 - -09
Z Etc/GMT-1
P 3600 - +01
Z Etc/GMT-10
P 36000 - +10
Z Etc/GMT-11
P 39600 - +11
Z Etc/GMT-12
P 43200 - +12
Z Etc/GMT-13
P 46800 - +13
Z Etc/GMT-14
P 50400 - +14
Z Etc/GMT-2
P 7200 - +02
Z Etc/GMT-3
P 10800 - +03
Z Etc/GMT-4
P 14400 - +04
Z Etc/GMT-5
P 18000 - +05
Z Etc/GMT-6
P 21600 - +06
Z Etc/GMT-7
P 25200 - +07
Z Etc/GMT-8
P 28800 - +08
Z Etc/GMT-9
P 32400 - +09
Z Etc/UTC
P 0 - UTC
Z Europe/Andorra
P 364 - LMT 1901
P 0 - WET 1946 9 30
P 3600 - CET 1985 3 31 7200w
P 3600 E CE%sT
Z Europe/Astrakhan
P 11532 - LMT 1924 5
P 10800 - +03 1930 6 21
P 14400 R +04/+05 1989 3 26 7200s
P 10800 R +03/+04 1991 3 31 7200s
P 14400 - +04 1992 3 29 7200s
P 10800 R +03/+04 2011 3 27 7200s
P 14400 - +04 2014 10 26 7200s
P 10800 - +03 2016 3 27 7200s
P 14400 - +04
Z Europe/Athens
P 5692 - LMT 1895 9 14
P 5692 - AMT 1916 7 28 60w
P 7200 g EE%sT 1941 4 30
P 3600 g CE%sT 1944 4 4
P 7200 g EE%sT 1981
P 7200 E EE%sT
Z Europe/Belgrade
P 4920 - LMT 1884
P 3600 - CET 1941 4 18 82800w
P 3600 c CE%sT 1945
P 3600 - CET 1945 5 8 7200s
P 3600 :3600 CEST 1945 9 16 7200s
P 3600 - CET 1982 11 27
P 3600 E CE%sT
Z Europe/Berlin
P 3208 - LMT 1893 4
P 3600 c CE%sT 1945 5 24 7200w
P 3600 So CE%sT 1946
P 3600 DE CE%sT 1980
P 3600 E CE%sT
Z Europe/Brussels
P 1050 - LMT 1880
P 1050 - BMT 1892 5 1 1050w
P 0 - WET 1914 11 8
P 3600 - CET 1916 5
P 3600 c CE%sT 1918 11 11 39600u
P 0 b WE%sT 1940 5 20 7200s
P 3600 c CE%sT 1944 9 3
P 3600 b CE%sT 1977
P 3600 E CE%sT
Z Europe/Bucharest
P 6264 - LMT 1891 10
P 6264 - BMT 1931 7 24
P 7200 z EE%sT 1981 3 29 7200s
P 7200 c EE%sT 1991
P 7200 z EE%sT 1994
P 7200 e EE%sT 1997
P 7200 E EE%sT
Z Europe/Budapest
P 4580 - LMT 1890 11
P 3600 c CE%sT 1918
P 3600 h CE%sT 1941 4 7 82800w
P 3600 c CE%sT 1945
P 3600 h CE%sT 1984
P 3600 E CE%sT
Z Europe/Chisinau
P 6920 - LMT 1880
P 6900 - CMT 1918 2 15
P 6264 - BMT 1931 7 24
P 7200 z EE%sT 1940 8 15
P 7200 :3600 EEST 1941 7 17
P 3600 c CE%sT 1944 8 24
P 10800 R MSK/MSD 1990 5 6 7200w
P 7200 R EE%sT 1992
P 7200 e EE%sT 1997
P 7200 MD EE%sT
Z Europe/Dublin
P -1521 - LMT 1880 8 2
P -1521 - DMT 1916 5 21 7200s
P -1521 :3600 IST 1916 10 1 7200s
P 0 G %s 1921 12 6
P 0 G GMT/IST 1940 2 25 7200s
P 0 :3600 IST 1946 10 6 7200s
P 0 - GMT 1947 3 16 7200s
P 0 :3600 IST 1947 11 2 7200s
P 0 - GMT 1948 4 18 7200s
P 0 G GMT/IST 1968 10 27
P 3600 Eire IST/GMT
Z Europe/Gibraltar
P -1284 - LMT 1880 8 2
P 0 G %s 1957 4 14 7200w
P 3600 - CET 1982
P 3600 E CE%sT
Z Europe/Helsinki
P 5989 - LMT 1878 5 31
P 5989 - HMT 1921 5
P 7200 FI EE%sT 1983
P 7200 E EE%sT
Z Europe/Istanbul
P 6952 - LMT 1880
P 7016 - IMT 1910 10
P 7200 T EE%sT 1978 6 29
P 10800 T +03/+04 1984 11 1 7200w
P 7200 T EE%sT 2007
P 7200 E EE%sT 2011 3 27 3600u
P 7200 - EET 2011 3 28 3600u
P 7200 E EE%sT 2014 3 30 3600u
P 7200 - EET 2014 3 31 3600u
P 7200 E EE%sT 2015 10 25 3600u
P 7200 :3600 EEST 2015 11 8 3600u
P 7200 E EE%sT 2016 9 7
P 10800 - +03
Z Europe/Kaliningrad
P 4920 - LMT 1893 4
P 3600 c CE%sT 1945 4 10
P 7200 O EE%sT 1946 4 7
P 10800 R MSK/MSD 1989 3 26 7200s
P 7200 R EE%sT 2011 3 27 7200s
P 10800 - +03 2014 10 26 7200s
P 7200 - EET
Z Europe/Kirov
P 11928 - LMT 1919 7 1 0u
P 10800 - +03 1930 6 21
P 14400 R +04/+05 1989 3 26 7200s
P 10800 R MSK/MSD 1991 3 31 7200s
P 14400 - +04 1992 3 29 7200s
P 10800 R MSK/MSD 2011 3 27 7200s
P 14400 - MSK 2014 10 26 7200s
P 10800 - MSK
Z Europe/Kyiv
P 7324 - LMT 1880
P 7324 - KMT 1924 5 2
P 7200 - EET 1930 6 21
P 10800 - MSK 1941 9 20
P 3600 c CE%sT 1943 11 6
P 10800 R MSK/MSD 1990 7 1 7200w
P 7200 :3600 EEST 1991 9 29 10800w
P 7200 c EE%sT 1996 5 13
P 7200 E EE%sT
Z Europe/Lisbon
P -2205 - LMT 1884
P -2205 - LMT 1912 1 1 0u
P 0 p WE%sT 1966 4 3 7200w
P 3600 - CET 1976 9 26 3600w
P 0 p WE%sT 1983 9 25 3600s
P 0 W- WE%sT 1992 9 27 3600s
P 3600 E CE%sT 1996 3 31 3600u
P 0 E WE%sT
Z Europe/London
P -75 - LMT 1847 12
P 0 G %s 1968 10 27
P 3600 - BST 1971 10 31 7200u
P 0 G %s 1996
P 0 E GMT/BST
Z Europe/Madrid
P -884 - LMT 1901 1 1 0u
P 0 s WE%sT 1940 3 16 82800w
P 3600 s CE%sT 1979
P 3600 E CE%sT
Z Europe/Malta
P 3484 - LMT 1893 11 2
P 3600 I CE%sT 1973 3 31
P 3600 MT CE%sT 1981
P 3600 E CE%sT
Z Europe/Minsk
P 6616 - LMT 1880
P 6600 - MMT 1924 5 2
P 7200 - EET 1930 6 21
P 10800 - MSK 1941 6 28
P 3600 c CE%sT 1944 7 3
P 10800 R MSK/MSD 1990
P 10800 - MSK 1991 3 31 7200s
P 7200 R EE%sT 2011 3 27 7200s
P 10800 - +03
Z Europe/Moscow
P 9017 - LMT 1880
P 9017 - MMT 1916 7 3
P 9079 R %s 1919 7 1 0u
P 10800 R %s 1921 10
P 10800 R MSK/MSD 1922 10
P 7200 - EET 1930 6 21
P 10800 R MSK/MSD 1991 3 31 7200s
P 7200 R EE%sT 1992 1 19 7200s
P 10800 R MSK/MSD 2011 3 27 7200s
P 14400 - MSK 2014 10 26 7200s
P 10800 - MSK
Z Europe/Paris
P 561 - LMT 1891 3 16
P 561 - PMT 1911 3 11
P 0 F WE%sT 1940 6 14 82800w
P 3600 c CE%sT 1944 8 25
P 0 F WE%sT 1945 9 16 10800w
P 3600 F CE%sT 1977
P 3600 E CE%sT
Z Europe/Prague
P 3464 - LMT 1850
P 3464 - PMT 1891 10
P 3600 c CE%sT 1945 5 9
P 3600 CZ CE%sT 1946 12 1 10800w
P 0 - GMT 1947 2 23 7200w
P 3600 CZ CE%sT 1979
P 3600 E CE%sT
Z Europe/Riga
P 5794 - LMT 1880
P 5794 - RMT 1918 4 15 7200w
P 5794 :3600 LST 1918 9 16 10800w
P 5794 - RMT 1919 4 1 7200w
P 5794 :3600 LST 1919 5 22 10800w
P 5794 - RMT 1926 5 11
P 7200 - EET 1940 8 5
P 10800 - MSK 1941 7
P 3600 c CE%sT 1944 10 13
P 10800 R MSK/MSD 1989 3 lastSun 7200s
P 7200 :3600 EEST 1989 9 lastSun 7200s
P 7200 LV EE%sT 1997 1 21
P 7200 E EE%sT 2000 2 29
P 7200 - EET 2001 1 2
P 7200 E EE%sT
Z Europe/Rome
P 2996 - LMT 1866 12 12
P 2996 - RMT 1893 10 31 82800u
P 3600 I CE%sT 1943 9 10
P 3600 c CE%sT 1944 6 4
P 3600 I CE%sT 1980
P 3600 E CE%sT
Z Europe/Samara
P 12020 - LMT 1919 7 1 0u
P 10800 - +03 1930 6 21
P 14400 - +04 1935 1 27
P 14400 R +04/+05 1989 3 26 7200s
P 10800 R +03/+04 1991 3 31 7200s
P 7200 R +02/+03 1991 9 29 7200s
P 10800 - +03 1991 10 20 10800w
P 14400 R +04/+05 2010 3 28 7200s
P 10800 R +03/+04 2011 3 27 7200s
P 14400 - +04
Z Europe/Saratov
P 11058 - LMT 1919 7 1 0u
P 10800 - +03 1930 6 21
P 14400 R +04/+05 1988 3 27 7200s
P 10800 R +03/+04 1991 3 31 7200s
P 14400 - +04 1992 3 29 7200s
P 10800 R +03/+04 2011 3 27 7200s
P 14400 - +04 2014 10 26 7200s
P 10800 - +03 2016 12 4 7200s
P 14400 - +04
Z Europe/Simferopol
P 8184 - LMT 1880
P 8160 - SMT 1924 5 2
P 7200 - EET 1930 6 21
P 10800 - MSK 1941 11
P 3600 c CE%sT 1944 4 13
P 10800 R MSK/MSD 1990
P 10800 - MSK 1990 7 1 7200w
P 7200 - EET 1992 3 20
P 7200 c EE%sT 1994 5
P 10800 c MSK/MSD 1996 3 31 0s
P 10800 :3600 MSD 1996 10 27 10800s
P 10800 - MSK 1997 3 lastSun 3600u
P 7200 E EE%sT 2014 3 30 7200w
P 14400 - MSK 2014 10 26 7200s
P 10800 - MSK
Z Europe/Sofia
P 5596 - LMT 1880
P 7016 - IMT 1894 11 30
P 7200 - EET 1942 11 2 10800w
P 3600 c CE%sT 1945
P 3600 - CET 1945 4 2 10800w
P 7200 - EET 1979 3 31 82800w
P 7200 BG EE%sT 1982 9 26 10800w
P 7200 c EE%sT 1991
P 7200 e EE%sT 1997
P 7200 E EE%sT
Z Europe/Tallinn
P 5940 - LMT 1880
P 5940 - TMT 1918 2
P 3600 c CE%sT 1919 7
P 5940 - TMT 1921 5
P 7200 - EET 1940 8 6
P 10800 - MSK 1941 9 15
P 3600 c CE%sT 1944 9 22
P 10800 R MSK/MSD 1989 3 26 7200s
P 7200 :3600 EEST 1989 9 24 7200s
P 7200 c EE%sT 1998 9 22
P 7200 E EE%sT 1999 10 31 14400w
P 7200 - EET 2002 2 21
P 7200 E EE%sT
Z Europe/Tirane
P 4760 - LMT 1914
P 3600 - CET 1940 6 16
P 3600 q CE%sT 1984 7
P 3600 E CE%sT
Z Europe/Ulyanovsk
P 11616 - LMT 1919 7 1 0u
P 10800 - +03 1930 6 21
P 14400 R +04/+05 1989 3 26 7200s
P 10800 R +03/+04 1991 3 31 7200s
P 7200 R +02/+03 1992 1 19 7200s
P 10800 R +03/+04 2011 3 27 7200s
P 14400 - +04 2014 10 26 7200s
P 10800 - +03 2016 3 27 7200s
P 14400 - +04
Z Europe/Vienna
P 3921 - LMT 1893 4
P 3600 c CE%sT 1920
P 3600 a CE%sT 1940 4 1 7200s
P 3600 c CE%sT 1945 4 2 7200s
P 3600 :3600 CEST 1945 4 12 7200s
P 3600 - CET 1946
P 3600 a CE%sT 1981
P 3600 E CE%sT
Z Europe/Vilnius
P 6076 - LMT 1880
P 5040 - WMT 1917
P 5736 - KMT 1919 10 10
P 3600 - CET 1920 7 12
P 7200 - EET 1920 10 9
P 3600 - CET 1940 8 3
P 10800 - MSK 1941 6 24
P 3600 c CE%sT 1944 8
P 10800 R MSK/MSD 1989 3 26 7200s
P 7200 R EE%sT 1991 9 29 7200s
P 7200 c EE%sT 1998
P 7200 - EET 1998 3 29 3600u
P 3600 E CE%sT 1999 10 31 3600u
P 7200 - EET 2003
P 7200 E EE%sT
Z Europe/Volgograd
P 10660 - LMT 1920 1 3
P 10800 - +03 1930 6 21
P 14400 - +04 1961 11 11
P 14400 R +04/+05 1988 3 27 7200s
P 10800 R MSK/MSD 1991 3 31 7200s
P 14400 - +04 1992 3 29 7200s
P 10800 R MSK/MSD 2011 3 27 7200s
P 14400 - MSK 2014 10 26 7200s
P 10800 - MSK 2018 10 28 7200s
P 14400 - +04 2020 12 27 7200s
P 10800 - MSK
Z Europe/Warsaw
P 5040 - LMT 1880
P 5040 - WMT 1915 8 5
P 3600 c CE%sT 1918 9 16 10800w
P 7200 O EE%sT 1922 6
P 3600 O CE%sT 1940 6 23 7200w
P 3600 c CE%sT 1944 10
P 3600 O CE%sT 1977
P 3600 W- CE%sT 1988
P 3600 E CE%sT
Z Europe/Zurich
P 2048 - LMT 1853 7 16
P 1786 - BMT 1894 6
P 3600 CH CE%sT 1981
P 3600 E CE%sT
Z HST
P -36000 - HST
Z Indian/Chagos
P 17380 - LMT 1907
P 18000 - +05 1996
P 21600 - +06
Z Indian/Maldives
P 17640 - LMT 1880
P 17640 - MMT 1960
P 18000 - +05
Z Indian/Mauritius
P 13800 - LMT 1907
P 14400 MU +04/+05
Z MET
P 3600 c ME%sT
Z MST
P -25200 - MST
Z MST7MDT
P -25200 u M%sT
Z PST8PDT
P -28800 u P%sT
Z Pacific/Apia
P 45184 - LMT 1892 7 5
P -41216 - LMT 1911
P -41400 - -1130 1950
P -39600 WS -11/-10 2011 12 29 86400w
P 46800 WS +13/+14
Z Pacific/Auckland
P 41944 - LMT 1868 11 2
P 41400 NZ NZ%sT 1946
P 43200 NZ NZ%sT
Z Pacific/Bougainville
P 37336 - LMT 1880
P 35312 - PMMT 1895
P 36000 - +10 1942 7
P 32400 - +09 1945 8 21
P 36000 - +10 2014 12 28 7200w
P 39600 - +11
Z Pacific/Chatham
P 44028 - LMT 1868 11 2
P 44100 - +1215 1946
P 45900 k +1245/+1345
Z Pacific/Easter
P -26248 - LMT 1890
P -26248 - EMT 1932 9
P -25200 x -07/-06 1982 3 14 10800u
P -21600 x -06/-05
Z Pacific/Efate
P 40396 - LMT 1912 1 13
P 39600 VU +11/+12
Z Pacific/Fakaofo
P -41096 - LMT 1901
P -39600 - -11 2011 12 30
P 46800 - +13
Z Pacific/Fiji
P 42944 - LMT 1915 10 26
P 43200 FJ +12/+13
Z Pacific/Galapagos
P -21504 - LMT 1931
P -18000 - -05 1986
P -21600 EC -06/-05
Z Pacific/Gambier
P -32388 - LMT 1912 10
P -32400 - -09
Z Pacific/Guadalcanal
P 38388 - LMT 1912 10
P 39600 - +11
Z Pacific/Guam
P -51660 - LMT 1844 12 31
P 34740 - LMT 1901
P 36000 - GST 1941 12 10
P 32400 - +09 1944 7 31
P 36000 Gu G%sT 2000 12 23
P 36000 - ChST
Z Pacific/Honolulu
P -37886 - LMT 1896 1 13 43200w
P -37800 - HST 1933 4 30 7200w
P -37800 :3600 HDT 1933 5 21 43200w
P -37800 u H%sT 1947 6 8 7200w
P -36000 - HST
Z Pacific/Kanton
P 0 - -00 1937 8 31
P -43200 - -12 1979 10
P -39600 - -11 1994 12 31
P 46800 - +13
Z Pacific/Kiritimati
P -37760 - LMT 1901
P -38400 - -1040 1979 10
P -36000 - -10 1994 12 31
P 50400 - +14
Z Pacific/Kosrae
P -47284 - LMT 1844 12 31
P 39116 - LMT 1901
P 39600 - +11 1914 10
P 32400 - +09 1919 2
P 39600 - +11 1937
P 36000 - +10 1941 4
P 32400 - +09 1945 8
P 39600 - +11 1969 10
P 43200 - +12 1999
P 39600 - +11
Z Pacific/Kwajalein
P 40160 - LMT 1901
P 39600 - +11 1937
P 36000 - +10 1941 4
P 32400 - +09 1944 2 6
P 39600 - +11 1969 10
P -43200 - -12 1993 8 20 86400w
P 43200 - +12
Z Pacific/Marquesas
P -33480 - LMT 1912 10
P -34200 - -0930
Z Pacific/Nauru
P 40060 - LMT 1921 1 15
P 41400 - +1130 1942 8 29
P 32400 - +09 1945 9 8
P 41400 - +1130 1979 2 10 7200w
P 43200 - +12
Z Pacific/Niue
P -40780 - LMT 1952 10 16
P -40800 - -1120 1964 7
P -39600 - -11
Z Pacific/Norfolk
P 40312 - LMT 1901
P 40320 - +1112 1951
P 41400 - +1130 1974 10 27 7200s
P 41400 :3600 +1230 1975 3 2 7200s
P 41400 - +1130 2015 10 4 7200s
P 39600 - +11 2019 7
P 39600 AN +11/+12
Z Pacific/Noumea
P 39948 - LMT 1912 1 13
P 39600 NC +11/+12
Z Pacific/Pago_Pago
P 45432 - LMT 1892 7 5
P -40968 - LMT 1911
P -39600 - SST
Z Pacific/Palau
P -54124 - LMT 1844 12 31
P 32276 - LMT 1901
P 32400 - +09
Z Pacific/Pitcairn
P -31220 - LMT 1901
P -30600 - -0830 1998 4 27
P -28800 - -08
Z Pacific/Port_Moresby
P 35320 - LMT 1880
P 35312 - PMMT 1895
P 36000 - +10
Z Pacific/Rarotonga
P 48056 - LMT 1899 12 26
P -38344 - LMT 1952 10 16
P -37800 - -1030 1978 11 12
P -36000 CK -10/-0930
Z Pacific/Tahiti
P -35896 - LMT 1912 10
P -36000 - -10
Z Pacific/Tarawa
P 41524 - LMT 1901
P 43200 - +12
Z Pacific/Tongatapu
P 44352 - LMT 1945 9 10
P 44400 - +1220 1961
P 46800 - +13 1999
P 46800 TO +13/+14
Z WET
P 0 E WE%sT
L Africa/Abidjan Africa/Accra
L Africa/Nairobi Africa/Addis_Ababa
L Africa/Nairobi Africa/Asmara
L Africa/Nairobi Africa/Asmera
L Africa/Abidjan Africa/Bamako
L Africa/Lagos Africa/Bangui
L Africa/Abidjan Africa/Banjul
L Africa/Maputo Africa/Blantyre
L Africa/Lagos Africa/Brazzaville
L Africa/Maputo Africa/Bujumbura
L Africa/Abidjan Africa/Conakry
L Africa/Abidjan Africa/Dakar
L Africa/Nairobi Africa/Dar_es_Salaam
L Africa/Nairobi Africa/Djibouti
L Africa/Lagos Africa/Douala
L Africa/Abidjan Africa/Freetown
L Africa/Maputo Africa/Gaborone
L Africa/Maputo Africa/Harare
L Africa/Nairobi Africa/Kampala
L Africa/Maputo Africa/Kigali
L Africa/Lagos Africa/Kinshasa
L Africa/Lagos Africa/Libreville
L Africa/Abidjan Africa/Lome
L Africa/Lagos Africa/Luanda
L Africa/Maputo Africa/Lubumbashi
L Africa/Maputo Africa/Lusaka
L Africa/Lagos Africa/Malabo
L Africa/Johannesburg Africa/Maseru
L Africa/Johannesburg Africa/Mbabane
L Africa/Nairobi Africa/Mogadishu
L Africa/Lagos Africa/Niamey
L Africa/Abidjan Africa/Nouakchott
L Africa/Abidjan Africa/Ouagadougou
L Africa/Lagos Africa/Porto-Novo
L Africa/Abidjan Africa/Timbuktu
L America/Puerto_Rico America/Anguilla
L America/Puerto_Rico America/Antigua
L America/Argentina/Catamarca America/Argentina/ComodRivadavia
L America/Puerto_Rico America/Aruba
L America/Panama America/Atikokan
L America/Adak America/Atka
L America/Puerto_Rico America/Blanc-Sablon
L America/Argentina/Buenos_Aires America/Buenos_Aires
L America/Argentina/Catamarca America/Catamarca
L America/Panama America/Cayman
L America/Panama America/Coral_Harbour
L America/Argentina/Cordoba America/Cordoba
L America/Phoenix America/Creston
L America/Puerto_Rico America/Curacao
L America/Puerto_Rico America/Dominica
L America/Tijuana America/Ensenada
L America/Indiana/Indianapolis America/Fort_Wayne
L America/Nuuk America/Godthab
L America/Puerto_Rico America/Grenada
L America/Puerto_Rico America/Guadeloupe
L America/Indiana/Indianapolis America/Indianapolis
L America/Argentina/Jujuy America/Jujuy
L America/Indiana/Knox America/Knox_IN
L America/Puerto_Rico America/Kralendijk
L America/Kentucky/Louisville America/Louisville
L America/Puerto_Rico America/Lower_Princes
L America/Puerto_Rico America/Marigot
L America/Argentina/Mendoza America/Mendoza
L America/Toronto America/Montreal
L America/Puerto_Rico America/Montserrat
L America/Toronto America/Nassau
L America/Toronto America/Nipigon
L America/Iqaluit America/Pangnirtung
L America/Puerto_Rico America/Port_of_Spain
L America/Rio_Branco America/Porto_Acre
L America/Winnipeg America/Rainy_River
L America/Argentina/Cordoba America/Rosario
L America/Tijuana America/Santa_Isabel
L America/Denver America/Shiprock
L America/Puerto_Rico America/St_Barthelemy
L America/Puerto_Rico America/St_Kitts
L America/Puerto_Rico America/St_Lucia
L America/Puerto_Rico America/St_Thomas
L America/Puerto_Rico America/St_Vincent
L America/Toronto America/Thunder_Bay
L America/Puerto_Rico America/Tortola
L America/Puerto_Rico America/Virgin
L America/Edmonton America/Yellowknife
L Pacific/Port_Moresby Antarctica/DumontDUrville
L Pacific/Auckland Antarctica/McMurdo
L Pacific/Auckland Antarctica/South_Pole
L Asia/Riyadh Antarctica/Syowa
L Europe/Berlin Arctic/Longyearbyen
L Asia/Riyadh Asia/Aden
L Asia/Ashgabat Asia/Ashkhabad
L Asia/Qatar Asia/Bahrain
L Asia/Kuching Asia/Brunei
L Asia/Kolkata Asia/Calcutta
L Asia/Shanghai Asia/Chongqing
L Asia/Shanghai Asia/Chungking
L Asia/Dhaka Asia/Dacca
L Asia/Shanghai Asia/Harbin
L Europe/Istanbul Asia/Istanbul
L Asia/Urumqi Asia/Kashgar
L Asia/Kathmandu Asia/Katmandu
L Asia/Singapore Asia/Kuala_Lumpur
L Asia/Riyadh Asia/Kuwait
L Asia/Macau Asia/Macao
L Asia/Dubai Asia/Muscat
L Asia/Bangkok Asia/Phnom_Penh
L Asia/Yangon Asia/Rangoon
L Asia/Ho_Chi_Minh Asia/Saigon
L Asia/Jerusalem Asia/Tel_Aviv
L Asia/Thimphu Asia/Thimbu
L Asia/Makassar Asia/Ujung_Pandang
L Asia/Ulaanbaatar Asia/Ulan_Bator
L Asia/Bangkok Asia/Vientiane
L Atlantic/Faroe Atlantic/Faeroe
L Europe/Berlin Atlantic/Jan_Mayen
L Africa/Abidjan Atlantic/Reykjavik
L Africa/Abidjan Atlantic/St_Helena
L Australia/Sydney Australia/ACT
L Australia/Sydney Australia/Canberra
L Australia/Hobart Australia/Currie
L Australia/Lord_Howe Australia/LHI
L Australia/Sydney Australia/NSW
L Australia/Darwin Australia/North
L Australia/Brisbane Australia/Queensland
L Australia/Adelaide Australia/South
L Australia/Hobart Australia/Tasmania
L Australia/Melbourne Australia/Victoria
L Australia/Perth Australia/West
L Australia/Broken_Hill Australia/Yancowinna
L America/Rio_Branco Brazil/Acre
L America/Noronha Brazil/DeNoronha
L America/Sao_Paulo Brazil/East
L America/Manaus Brazil/West
L America/Halifax Canada/Atlantic
L America/Winnipeg Canada/Central
L America/Toronto Canada/Eastern
L America/Edmonton Canada/Mountain
L America/St_Johns Canada/Newfoundland
L America/Vancouver Canada/Pacific
L America/Regina Canada/Saskatchewan
L America/Whitehorse Canada/Yukon
L America/Santiago Chile/Continental
L Pacific/Easter Chile/EasterIsland
L America/Havana Cuba
L Africa/Cairo Egypt
L Europe/Dublin Eire
L Etc/GMT Etc/GMT+0
L Etc/GMT Etc/GMT-0
L Etc/GMT Etc/GMT0
L Etc/GMT Etc/Greenwich
L Etc/UTC Etc/UCT
L Etc/UTC Etc/Universal
L Etc/UTC Etc/Zulu
L Europe/Brussels Europe/Amsterdam
L Europe/London Europe/Belfast
L Europe/Prague Europe/Bratislava
L Europe/Zurich Europe/Busingen
L Europe/Berlin Europe/Copenhagen
L Europe/London Europe/Guernsey
L Europe/London Europe/Isle_of_Man
L Europe/London Europe/Jersey
L Europe/Kyiv Europe/Kiev
L Europe/Belgrade Europe/Ljubljana
L Europe/Brussels Europe/Luxembourg
L Europe/Helsinki Europe/Mariehamn
L Europe/Paris Europe/Monaco
L Asia/Nicosia Europe/Nicosia
L Europe/Berlin Europe/Oslo
L Europe/Belgrade Europe/Podgorica
L Europe/Rome Europe/San_Marino
L Europe/Belgrade Europe/Sarajevo
L Europe/Belgrade Europe/Skopje
L Europe/Berlin Europe/Stockholm
L Europe/Chisinau Europe/Tiraspol
L Europe/Kyiv Europe/Uzhgorod
L Europe/Zurich Europe/Vaduz
L Europe/Rome Europe/Vatican
L Europe/Belgrade Europe/Zagreb
L Europe/Kyiv Europe/Zaporozhye
L Europe/London GB
L Europe/London GB-Eire
L Etc/GMT GMT
L Etc/GMT GMT+0
L Etc/GMT GMT-0
L Etc/GMT GMT0
L Etc/GMT Greenwich
L Asia/Hong_Kong Hongkong
L Africa/Abidjan Iceland
L Africa/Nairobi Indian/Antananarivo
L Asia/Bangkok Indian/Christmas
L Asia/Yangon Indian/Cocos
L Africa/Nairobi Indian/Comoro
L Indian/Maldives Indian/Kerguelen
L Asia/Dubai Indian/Mahe
L Africa/Nairobi Indian/Mayotte
L Asia/Dubai Indian/Reunion
L Asia/Tehran Iran
L Asia/Jerusalem Israel
L America/Jamaica Jamaica
L Asia/Tokyo Japan
L Pacific/Kwajalein Kwajalein
L Africa/Tripoli Libya
L America/Tijuana Mexico/BajaNorte
L America/Mazatlan Mexico/BajaSur
L America/Mexico_City Mexico/General
L Pacific/Auckland NZ
L Pacific/Chatham NZ-CHAT
L America/Denver Navajo
L Asia/Shanghai PRC
L Pacific/Port_Moresby Pacific/Chuuk
L Pacific/Kanton Pacific/Enderbury
L Pacific/Tarawa Pacific/Funafuti
L Pacific/Honolulu Pacific/Johnston
L Pacific/Tarawa Pacific/Majuro
L Pacific/Pago_Pago Pacific/Midway
L Pacific/Guadalcanal Pacific/Pohnpei
L Pacific/Guadalcanal Pacific/Ponape
L Pacific/Guam Pacific/Saipan
L Pacific/Pago_Pago Pacific/Samoa
L Pacific/Port_Moresby Pacific/Truk
L Pacific/Tarawa Pacific/Wake
L Pacific/Tarawa Pacific/Wallis
L Pacific/Port_Moresby Pacific/Yap
L Europe/Warsaw Poland
L Europe/Lisbon Portugal
L Asia/Taipei ROC
L Asia/Seoul ROK
L Asia/Singapore Singapore
L Europe/Istanbul Turkey
L Etc/UTC UCT
L America/Anchorage US/Alaska
L America/Adak US/Aleutian
L America/Phoenix US/Arizona
L America/Chicago US/Central
L America/Indiana/Indianapolis US/East-Indiana
L America/New_York US/Eastern
L Pacific/Honolulu US/Hawaii
L America/Indiana/Knox US/Indiana-Starke
L America/Detroit US/Michigan
L America/Denver US/Mountain
L America/Los_Angeles US/Pacific
L Pacific/Pago_Pago US/Samoa
L Etc/UTC UTC
L Etc/UTC Universal
L Europe/Moscow W-SU
L Etc/UTC Zulu"

end Cadence.Zone
